import TsqlAlter.Proofs.Json.Decoding

/-!
# Records that are read back

A record is written with all its fields, and read field by field into a blank record. A member whose
value is the one the blank record has anyway may be left out (`Abridges`): what the members put into
the record, one after the other, is the same without it (`Format.Leads`).

Results:
* `Format.Leads.readsAs`: a record is read back, also with members left out.
* `Format.exists_error_of_strict`: unknown and repeated keys are refused by a strict format.
* `Format.decode_induction`: what holds of the blank record and is kept by each field holds of what
  is read.

Left out: records given as arrays, whose fields have no keys.
-/

namespace TsqlAlter.Json

variable {α β : Type}

/-! ## Members that are left out -/

/-- The members without some of those that are among the optional ones. -/
inductive Abridges (optional : List (String × Value)) :
    List (String × Value) → List (String × Value) → Prop
  | nil : Abridges optional [] []
  | keep (m : String × Value) {ms full : List (String × Value)} :
    Abridges optional ms full → Abridges optional (m :: ms) (m :: full)
  | drop {m : String × Value} {ms full : List (String × Value)} (default : m ∈ optional) :
    Abridges optional ms full → Abridges optional ms (m :: full)

namespace Abridges

variable {optional ms full : List (String × Value)}

protected theorem refl (ms : List (String × Value)) : Abridges optional ms ms := by
  induction ms with
  | nil => exact .nil
  | cons m ms ih => exact .keep m ih

protected theorem sublist (h : Abridges optional ms full) : ms.Sublist full := by
  induction h with
  | nil => exact .slnil
  | keep m _ ih => exact ih.cons_cons m
  | drop _ _ ih => exact ih.cons _

/-- A member that is not optional is there. -/
theorem mem_of_notMem (h : Abridges optional ms full) {m : String × Value} (hm : m ∈ full)
    (required : m ∉ optional) : m ∈ ms := by
  induction h with
  | nil => exact hm
  | keep n _ ih =>
    rcases List.mem_cons.1 hm with rfl | hm
    · exact List.mem_cons_self
    · exact List.mem_cons_of_mem n (ih hm)
  | drop default _ ih =>
    rcases List.mem_cons.1 hm with rfl | hm
    · exact absurd default required
    · exact ih hm

end Abridges

/-! ## Records -/

namespace Format

variable {f : Format α} {optional ms full : List (String × Value)} {a c : α}

/-- Members put into a record one after the other make another record of it. The members that are
optional change nothing. -/
def Leads (f : Format α) (optional : List (String × Value)) (c : α) :
    α → List (String × Value) → Prop
  | a, [] => a = c
  | a, (key, v) :: more =>
    ∃ b, v.IsExact ∧ f.put key v.tree a = .ok b ∧ ((key, v) ∈ optional → b = a) ∧
      f.Leads optional c b more

/-- A field that is read back and set. -/
theorem Leads.cons {key : String} {v : Value} {more : List (String × Value)} {d : Decoder β} {x : β}
    {set : β → α} (back : v.ReadsAs d x) (put : f.put key v.tree a = d v.tree >>= (pure <| set ·))
    (default : (key, v) ∈ optional → set x = a) (leads : f.Leads optional c (set x) more) :
    f.Leads optional c a ((key, v) :: more) :=
  ⟨set x, back.exact, by rw [put, back.decode]; rfl, default, leads⟩

/-- Members as they are placed into the fields. -/
def placed (ms : List (String × Value)) : List (String × Tree) := ms.map fun m => (m.1, m.2.tree)

theorem Leads.place (leads : f.Leads optional c a full) (abridges : Abridges optional ms full) :
    f.place a (placed ms) = .ok c := by
  induction abridges generalizing a with
  | nil =>
    cases leads
    rfl
  | keep m _ ih =>
    obtain ⟨b, -, put, -, leads⟩ := leads
    rw [placed, List.map_cons, Format.place, put]
    exact ih leads
  | drop default _ ih =>
    obtain ⟨b, -, put, same, leads⟩ := leads
    rw [same default] at leads
    exact ih leads

/-- Distinct keys that are new are read as their members are placed. -/
theorem foldlM_member {ts : List (String × Tree)} (seen : List String) (h : f.place a ts = .ok c)
    (distinct : (ts.map Prod.fst).Nodup) (known : ∀ t ∈ ts, t.1 ∈ f.keys)
    (fresh : ∀ t ∈ ts, t.1 ∉ seen) :
    (ts.map fun t => (some t.1, t.2)).foldlM f.member (a, seen) =
      .ok (c, (ts.map Prod.fst).reverse ++ seen) := by
  induction ts generalizing a seen with
  | nil =>
    cases h
    rfl
  | cons t ts ih =>
    obtain ⟨key, t⟩ := t
    obtain ⟨new, distinct⟩ := List.nodup_cons.1 distinct
    have unseen : key ∉ seen := fresh (key, t) List.mem_cons_self
    rw [Format.place] at h
    obtain ⟨b, hb, h⟩ := bind_eq_ok_iff.1 h
    have member : f.member (a, seen) (some key, t) = .ok (b, key :: seen) := by
      rw [Format.member, if_pos (known (key, t) List.mem_cons_self), if_neg unseen, hb]
      rfl
    have fresh (u) (hu : u ∈ ts) : u.1 ∉ key :: seen := by
      intro old
      rcases List.mem_cons.1 old with same | old
      · have listed := List.mem_map_of_mem (f := Prod.fst) hu
        rw [same] at listed
        exact new listed
      · exact fresh u (List.mem_cons_of_mem _ hu) old
    have rest := ih (key :: seen) h distinct (fun u hu => known u (List.mem_cons_of_mem _ hu)) fresh
    rw [List.map_cons, List.foldlM_cons, member, List.map_cons, List.reverse_cons,
      List.append_assoc]
    exact rest

theorem Leads.exact (leads : f.Leads optional c a full) : ∀ m ∈ full, m.2.IsExact := by
  induction full generalizing a with
  | nil => exact fun m hm => absurd hm List.not_mem_nil
  | cons m full ih =>
    obtain ⟨b, exact, -, -, leads⟩ := leads
    intro n hn
    rcases List.mem_cons.1 hn with rfl | hn
    · exact exact
    · exact ih leads n hn

/-- **A record is read back**, with optional members left out. -/
theorem Leads.readsAs (leads : f.Leads optional c f.blank full)
    (abridges : Abridges optional ms full) (keys : full.map Prod.fst = f.keys)
    (distinct : f.keys.Nodup) (required : f.required ⊆ f.keys)
    (mandatory : ∀ m ∈ optional, m.1 ∉ f.required) : (Value.object ms).ReadsAs f.decode c := by
  refine ⟨.object fun m hm => leads.exact m (abridges.sublist.subset hm), ?_⟩
  have sublist : (ms.map Prod.fst).Sublist f.keys := keys ▸ abridges.sublist.map Prod.fst
  have same : (placed ms).map Prod.fst = ms.map Prod.fst := by simp [placed]
  have read := foldlM_member [] (leads.place abridges) (same ▸ sublist.nodup distinct)
    (fun t ht => sublist.subset (same ▸ List.mem_map_of_mem ht)) fun t _ => List.not_mem_nil
  have given : f.required.find? (· ∉ (ms.map Prod.fst).reverse) = none := by
    refine List.find?_eq_none.2 fun key hk => ?_
    have known := required hk
    rw [← keys] at known
    obtain ⟨m, hm, rfl⟩ := List.mem_map.1 known
    have there := abridges.mem_of_notMem hm fun default => mandatory m default hk
    simpa using ⟨m.2, there⟩
  have members : (placed ms).map (fun t => (some t.1, t.2)) =
      ms.map fun m => (some m.1, m.2.tree) := by simp [placed]
  rw [same, members, List.append_nil] at read
  rw [Value.tree_object, Format.decode, read]
  simp only [bind, Except.bind, faulty, Ending.read, given]
  rfl

/-- What reading a member can do: it sets a field that was not set before, or it skips a key. -/
theorem member_cases {state state' : α × List String} {m : Option String × Tree}
    (h : f.member state m = .ok state') :
    (∃ key b, m.1 = some key ∧ key ∈ f.keys ∧ key ∉ state.2 ∧
      f.put key m.2 state.1 = .ok b ∧ state' = (b, key :: state.2)) ∨
    (f.strict = false ∧ state' = state) := by
  obtain ⟨_ | key, t⟩ := m
  · cases h
  · simp only [member] at h
    by_cases known : key ∈ f.keys
    · rw [if_pos known] at h
      by_cases seen : key ∈ state.2
      · rw [if_pos seen] at h
        cases h
      · rw [if_neg seen] at h
        obtain ⟨b, hb, rfl⟩ := map_eq_ok_iff.1 h
        exact .inl ⟨key, b, rfl, known, seen, hb, rfl⟩
    · rw [if_neg known] at h
      by_cases strict : f.strict = true
      · rw [if_pos strict] at h
        cases h
      · rw [if_neg strict] at h
        obtain ⟨_, -, rfl⟩ := map_eq_ok_iff.1 h
        exact .inr ⟨by simpa using strict, rfl⟩

/-- Members that a strict format reads have known keys, none of them twice or read before. -/
theorem keys_of_foldlM_member (strict : f.strict = true) {ms : List (Option String × Tree)}
    {state state' : α × List String} (h : ms.foldlM f.member state = .ok state') :
    (∀ m ∈ ms, ∃ key ∈ f.keys, m.1 = some key ∧ key ∉ state.2) ∧ (ms.map Prod.fst).Nodup := by
  induction ms generalizing state with
  | nil => exact ⟨fun m hm => absurd hm List.not_mem_nil, .nil⟩
  | cons m ms ih =>
    rw [List.foldlM_cons] at h
    obtain ⟨next, hm, h⟩ := bind_eq_ok_iff.1 h
    obtain ⟨key, b, named, known, unseen, -, rfl⟩ | ⟨lax, -⟩ := member_cases hm
    · obtain ⟨rest, distinct⟩ := ih h
      refine ⟨List.forall_mem_cons.2 ⟨⟨key, known, named, unseen⟩, fun n hn => ?_⟩,
        List.nodup_cons.2 ⟨fun twice => ?_, distinct⟩⟩
      · obtain ⟨key', known', named', unseen'⟩ := rest n hn
        exact ⟨key', known', named', fun seen => unseen' (List.mem_cons_of_mem key seen)⟩
      · -- the key of a later member is not among those read before it
        obtain ⟨n, hn, same⟩ := List.mem_map.1 twice
        obtain ⟨key', -, named', unseen'⟩ := rest n hn
        rw [named, named'] at same
        cases same
        exact unseen' List.mem_cons_self
    · rw [strict] at lax
      cases lax

/-- **A strict format refuses** an object with a key that is not one of its own, or one of its own
twice, wherever it stands and however the object ends. -/
theorem exists_error_of_strict (strict : f.strict = true) {ms : List (Option String × Tree)}
    (ending : Ending)
    (bad : (∃ m ∈ ms, ∀ key ∈ f.keys, m.1 ≠ some key) ∨ ¬(ms.map Prod.fst).Nodup) :
    ∃ e, f.decode (.object ms ending) = .error e := by
  cases h : f.decode (.object ms ending) with
  | error e => exact ⟨e, rfl⟩
  | ok c =>
    obtain ⟨state, read, -⟩ := bind_eq_ok_iff.1 h
    obtain ⟨known, distinct⟩ := keys_of_foldlM_member strict read
    rcases bad with ⟨m, hm, unknown⟩ | twice
    · obtain ⟨key, hk, named, -⟩ := known m hm
      exact absurd named (unknown key hk)
    · exact absurd distinct twice

section Induction

variable {P : α → Prop} (put : ∀ key t a b, P a → f.put key t a = .ok b → P b)

include put

theorem foldlM_induction {ms : List (Option String × Tree)} {state state' : α × List String}
    (h : ms.foldlM f.member state = .ok state') (hp : P state.1) : P state'.1 := by
  induction ms generalizing state with
  | nil =>
    cases h
    exact hp
  | cons m ms ih =>
    rw [List.foldlM_cons] at h
    obtain ⟨next, hm, h⟩ := bind_eq_ok_iff.1 h
    refine ih h ?_
    obtain ⟨key, b, -, -, -, hb, rfl⟩ | ⟨-, rfl⟩ := member_cases hm
    · exact put key _ _ _ hp hb
    · exact hp

theorem place_induction {ts : List (String × Tree)} (h : f.place a ts = .ok c) (hp : P a) :
    P c := by
  induction ts generalizing a with
  | nil =>
    cases h
    exact hp
  | cons t ts ih =>
    rw [Format.place] at h
    obtain ⟨b, hb, h⟩ := bind_eq_ok_iff.1 h
    exact ih h (put _ _ _ _ hp hb)

/-- What holds of the blank record and is kept by each field holds of the record that is read. -/
theorem decode_induction (blank : P f.blank) {t : Tree} (h : f.decode t = .ok c) : P c := by
  unfold Format.decode at h
  split at h
  · obtain ⟨state, read, h⟩ := bind_eq_ok_iff.1 h
    obtain ⟨_, -, h⟩ := bind_eq_ok_iff.1 h
    have hp := foldlM_induction put read blank
    split at h
    · cases h
    · cases h
      exact hp
  · obtain ⟨a, placed, h⟩ := bind_eq_ok_iff.1 h
    have hp := place_induction put placed blank
    dsimp only at h
    split at h
    · obtain ⟨_, failed, -⟩ := bind_eq_ok_iff.1 h
      cases failed
    · obtain ⟨_, -, h⟩ := bind_eq_ok_iff.1 h
      split at h
      · cases h
      · cases h
        exact hp
  · obtain ⟨e, refused⟩ := Decoder.exists_refuse (α := α) f.title t
    cases refused.symm.trans h

end Induction

end Format

end TsqlAlter.Json
