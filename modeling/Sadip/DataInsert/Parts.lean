import Sadip.DataInsert.Stored

/-!
# DataInsert/Parts — an insertion into tables of its own

An insertion goes through the lists of a message one after the other, and each has tables that no
other writes to.  `Sown` is about the tables of one list: what is in them after any number of other
parts, before it and behind it, is the forest of the list.  `Yields.sow` puts another list in front
of those that are sown already.
-/

namespace Sadip

namespace DataInsert

open Printf Sql Insertion

variable {σ : Type} {print content : σ → List Char} {names : List String}

/-! ## The tables of one list -/

variable {I : Int64 → Prop} {carried : List Int64} {T : List String}
  {P : Forest Int64 Row → Prop} {ds ds' : List Int64} {ss ss' : List (Text σ)}

/-- What the statements are meant to put into these tables is a forest in `P`. -/
def Sown (content : σ → List Char) (carried : List Int64) (T : List String)
    (P : Forest Int64 Row → Prop) (ds : List Int64) (ss : List (Text σ)) : Prop :=
  ∃ F, P F ∧ (∀ table ∈ T, meantRows content table ss = F.rowsAt table) ∧
    (F.ids.filter (· ∉ carried)).Subperm ds

theorem Bears.sown {F : Forest Int64 Row} (h : Bears content carried ds ss F) (hF : P F) :
    Sown content carried T P ds ss :=
  ⟨F, hF, fun table _ => h.rows table, h.ids⟩

/-- Other parts may come before it, -/
theorem Sown.append_left (h : Sown content carried T P ds' ss')
    (hss : ∀ t ∈ ss, Executed names t) (hdisj : ∀ table ∈ T, table ∉ names) :
    Sown content carried T P (ds ++ ds') (ss ++ ss') := by
  obtain ⟨F, hF, hrows, hids⟩ := h
  refine ⟨F, hF, fun table ht => ?_, hids.trans (List.sublist_append_right ds ds').subperm⟩
  rw [meantRows_append, meantRows_eq_nil hss (hdisj table ht), List.nil_append, hrows table ht]

/-- and behind it. -/
theorem Sown.append_right (h : Sown content carried T P ds ss)
    (hss : ∀ t ∈ ss', Executed names t) (hdisj : ∀ table ∈ T, table ∉ names) :
    Sown content carried T P (ds ++ ds') (ss ++ ss') := by
  obtain ⟨F, hF, hrows, hids⟩ := h
  refine ⟨F, hF, fun table ht => ?_, hids.trans (List.sublist_append_left ds ds').subperm⟩
  rw [meantRows_append, meantRows_eq_nil hss (hdisj table ht), List.append_nil, hrows table ht]

theorem Grows.sown {p : Insertion σ Unit} (hp : Grows print content I carried p P)
    (hon : Always (Executed T) p fun _ => True) :
    Yields print I p (fun ds ss _ => Sown content carried T P ds ss ∧ ∀ t ∈ ss, Executed T t)
      fun _ _ => False := by
  refine (Yields.and hp hon.yields).mono ?_ fun _ _ h => h.1.elim
  rintro ds ss - ⟨⟨F, hF, hbears⟩, -, hss⟩
  exact ⟨hbears.sown hF, hss⟩

/-! ## Several lists -/

/-- All of these are sown. -/
def Sows (content : σ → List Char) (carried : List Int64) :
    List (List String × (Forest Int64 Row → Prop)) → List Int64 → List (Text σ) → Prop
  | [], _, _ => True
  | part :: parts, ds, ss =>
      Sown content carried part.1 part.2 ds ss ∧ Sows content carried parts ds ss

theorem Sows.append_left (hss : ∀ t ∈ ss, Executed names t) :
    ∀ {parts : List (List String × (Forest Int64 Row → Prop))},
      Sows content carried parts ds' ss' → (∀ part ∈ parts, ∀ table ∈ part.1, table ∉ names) →
      Sows content carried parts (ds ++ ds') (ss ++ ss')
  | [], _, _ => trivial
  | part :: _, h, hdisj =>
      ⟨h.1.append_left hss (hdisj part List.mem_cons_self),
        Sows.append_left hss h.2 fun p hp => hdisj p (List.mem_cons_of_mem part hp)⟩

/-- The statements are on these tables, and the lists are sown, which have tables among them. -/
structure SowsOn (content : σ → List Char) (carried : List Int64) (names : List String)
    (parts : List (List String × (Forest Int64 Row → Prop))) (ds : List Int64)
    (ss : List (Text σ)) : Prop where
  executed : ∀ t ∈ ss, Executed names t
  sows : Sows content carried parts ds ss
  subset : ∀ part ∈ parts, part.1 ⊆ names

/-- **One more list in front.** -/
theorem Yields.sow {p : Insertion σ Unit} {q : Unit → Insertion σ Unit}
    {parts : List (List String × (Forest Int64 Row → Prop))}
    (hp : Grows print content I carried p P) (hon : Always (Executed T) p fun _ => True)
    (hq : Yields print I (q ()) (fun ds ss _ => SowsOn content carried names parts ds ss)
      (SowsOn content carried names parts)) (hT : ∀ table ∈ T, table ∉ names) :
    Yields print I (p >>= q)
      (fun ds ss _ => SowsOn content carried (T ++ names) ((T, P) :: parts) ds ss)
      (SowsOn content carried (T ++ names) ((T, P) :: parts)) := by
  refine yields_bind.mpr ((hp.sown hon).mono ?_ fun _ _ h => h.elim)
  rintro ds ss - ⟨hhere, hss⟩
  have hsown : ∀ ds' ss', SowsOn content carried names parts ds' ss' →
      SowsOn content carried (T ++ names) ((T, P) :: parts) (ds ++ ds') (ss ++ ss') := by
    intro ds' ss' h
    have hparts : ∀ part ∈ parts, ∀ table ∈ part.1, table ∉ T :=
      fun part hpart table htable hmem => hT table hmem (h.subset part hpart htable)
    refine ⟨fun t ht => ?_, ⟨hhere.append_right h.executed hT,
      h.sows.append_left hss hparts⟩, List.forall_mem_cons.mpr ⟨?_, fun part hpart => ?_⟩⟩
    · rcases List.mem_append.mp ht with ht | ht
      · exact (hss t ht).mono (List.subset_append_left T names)
      · exact (h.executed t ht).mono (List.subset_append_right T names)
    · exact List.subset_append_left T names
    · exact List.Subset.trans (h.subset part hpart) (List.subset_append_right T names)
  exact hq.mono (fun ds' ss' _ => hsown ds' ss') hsown

end DataInsert

end Sadip
