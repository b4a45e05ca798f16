import Sadip.Machinery.Lines
import Sadip.Machinery.Run

/-!
# LogMonitor — following a log file, `node/src/LogMonitor.cpp`

`LogMonitor::run` reads the lines of a file to which others append, puts them into a queue, and
about five times a second makes a batch of the queue and saves its position in `lastPos`.  At the
end of the file it waits, closes the file, and opens it again when it is longer than `lastPos`; each
round of the outer loop seeks to `lastPos`.

The lines read since `lastPos` was saved are read again after the end of the file, and a file that
is no longer than `lastPos` stays closed for good.  Here the others append complete lines; what
comes of pieces of lines is in `LogMonitor/Stream`, which this is the case of complete lines of
(`Stream.shows_step`).
-/

namespace Sadip

namespace LogMonitor

open Lines

/-! ## The monitor -/

/-- A line of the file, in bytes. -/
abbrev FileLine := Line (10 : UInt8)

/-- Where `run` is. -/
inductive Phase
  /-- at the condition of the outer loop -/
  | loop
  /-- at the condition of the inner loop -/
  | reading
  /-- the inner loop has ended at the end of the file -/
  | ended
  /-- `run` has returned -/
  | done
  deriving DecidableEq

/-- What `run` has; its `logTopic_` is set. -/
structure State where
  /-- the file: complete lines, appended by others -/
  file : List FileLine
  /-- the stream: whether it is open, its `failbit`, its position -/
  isOpen : Bool
  failed : Bool
  pos : ℕ
  lastPos : ℕ
  phase : Phase
  _stop : Bool
  logQueue_ : List (List UInt8)
  /-- the batches made, and whether `write_log_data` sent them -/
  batches : List (List (List UInt8) × Bool)
  /-- every line that was enqueued -/
  enqueued : List (List UInt8)

namespace State

def content (s : State) : List UInt8 := text s.file

end State

def _maxQueueSize : ℕ := 5000

/-- `run` has opened the file and comes to its loop. -/
def start (file : List FileLine) : State where
  file := file
  isOpen := true
  failed := false
  pos := 0
  lastPos := 0
  phase := .loop
  _stop := false
  logQueue_ := []
  batches := []
  enqueued := []

namespace State

variable (s : State)

/-- `logQueue_.enqueue(line)`; a queue that has got too long loses its oldest line. -/
def enqueue (line : List UInt8) : State :=
  let queue := s.logQueue_ ++ [line]
  { s with
    logQueue_ := if queue.length > _maxQueueSize then queue.tail else queue
    enqueued := s.enqueued ++ [line] }

/-- Once 200 ms have gone by, the queue becomes a batch and the position is saved. -/
def flush (sent : Bool) : State :=
  { s with
    logQueue_ := []
    batches := if s.logQueue_.length > 0 then s.batches ++ [(s.logQueue_, sent)] else s.batches
    lastPos := s.pos }

/-- `fs.clear()` and `fs.seekg(lastPos)`, which fails on a closed file. -/
def seek : State :=
  if s.isOpen then { s with failed := false, pos := s.lastPos, phase := .reading }
  else { s with failed := true, phase := .reading }

/-- The inner loop: one `getline`, and what is done with its line. -/
def read (late sent : Bool) : State :=
  if s._stop ∨ s.failed then { s with phase := .loop }
  else
    match getline 10 s.content s.pos with
    | none => { s with phase := .ended }
    | some (line, pos) =>
        let s := { s with pos }.enqueue line
        if late then s.flush sent else s

/-- After the sleep at the end of the file: the file is closed, and opened again when it is longer
than `lastPos`. -/
def reopen : State :=
  if s.content.length > s.lastPos then
    { s with isOpen := true, failed := false, pos := 0, phase := .loop }
  else { s with isOpen := false, failed := false, phase := .loop }

end State

inductive Event
  /-- somebody appends complete lines -/
  | append (lines : List FileLine)
  /-- `stopMonitoring` -/
  | stop
  /-- a round of the outer loop begins -/
  | loop
  /-- a round of the inner loop: whether 200 ms have gone by, and whether a batch is sent -/
  | read (late sent : Bool)
  /-- the sleep at the end of the file is over -/
  | wake
  deriving DecidableEq

def step (s : State) : Event → Option State
  | .append lines => some { s with file := s.file ++ lines }
  | .stop => some { s with _stop := true }
  | .loop =>
      if s.phase = .loop then
        some (if s._stop then { s with isOpen := false, phase := .done } else s.seek)
      else none
  | .read late sent => if s.phase = .reading then some (s.read late sent) else none
  | .wake => if s.phase = .ended then some s.reopen else none

/-- A step of `run` itself. -/
def Event.own : Event → Bool
  | .append _ => false
  | .stop => false
  | _ => true

end LogMonitor

end Sadip
