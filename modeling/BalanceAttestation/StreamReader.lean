import Mathlib.Data.Vector.Basic

/-! Readers of a stream. A field that a reader takes off the front of every longer
stream can be followed by another, so a record is read back field by field, and
two values with the same words are one. -/

namespace StreamReader

abbrev Reader (ω α : Type) := StateT (List ω) Option α

variable {ω α β : Type}

def next : Reader ω ω
  | [] => none
  | w :: rest => some (w, rest)

def vector (d : Reader ω α) : (n : Nat) → Reader ω (List.Vector α n)
  | 0 => pure .nil
  | n + 1 => do
    let a ← d
    let v ← vector d n
    return a ::ᵥ v

def list (d : Reader ω α) (n : Nat) : Reader ω (List α) := List.Vector.toList <$> vector d n

/-- On `ws` and whatever follows it, the reader returns `a` and leaves the rest. -/
def Consumes (d : Reader ω α) (ws : List ω) (a : α) : Prop :=
  ∀ rest, d (ws ++ rest) = some (a, rest)

namespace Consumes

variable {d : Reader ω α} {ws ws' : List ω} {a a' : α}

theorem read_all (h : Consumes d ws a) : d ws = some (a, []) := by
  have hh := h []
  rwa [List.append_nil] at hh

theorem unique (h : Consumes d ws a) (h' : Consumes d ws a') : a = a' := by
  have hh := h.read_all.symm.trans h'.read_all
  exact (Prod.mk.inj (Option.some.inj hh)).1

theorem pure (a : α) : Consumes (pure a : Reader ω α) [] a := fun _ => rfl

theorem bind {next : α → Reader ω β} {b : β} (h : Consumes d ws a) (hnext : Consumes (next a) ws' b) :
    Consumes (d >>= next) (ws ++ ws') b := by
  intro rest
  change (d (ws ++ ws' ++ rest)).bind (fun p => next p.1 p.2) = _
  rw [List.append_assoc, h (ws' ++ rest)]
  exact hnext rest

theorem map (f : α → β) (h : Consumes d ws a) : Consumes (f <$> d) ws (f a) := by
  intro rest
  change (d (ws ++ rest)).bind (fun p => some (f p.1, p.2)) = _
  rw [h rest]
  rfl

theorem next (w : ω) : Consumes next [w] w := fun _ => rfl

theorem vector {enc : α → List ω} {n : Nat} (v : List.Vector α n)
    (h : ∀ a ∈ v.toList, Consumes d (enc a) a) :
    Consumes (vector d n) (v.toList.flatMap enc) v := by
  induction n with
  | zero =>
    rw [List.Vector.eq_nil v]
    exact pure _
  | succ n ih =>
    obtain ⟨a, v, rfl⟩ := v.exists_eq_cons
    rw [List.Vector.toList_cons, List.forall_mem_cons] at h
    rw [List.Vector.toList_cons, List.flatMap_cons, ← List.append_nil (v.toList.flatMap enc)]
    exact h.1.bind ((ih v h.2).bind (pure _))

theorem list {enc : α → List ω} (as : List α) (h : ∀ a ∈ as, Consumes d (enc a) a) :
    Consumes (list d as.length) (as.flatMap enc) as :=
  (vector ⟨as, rfl⟩ h).map List.Vector.toList

end Consumes

section Runs

variable {d : Reader ω α} {ws rest : List ω}

theorem bind_eq_some {f : α → Reader ω β} {b : β} :
    (d >>= f) ws = some (b, rest) ↔ ∃ a mid, d ws = some (a, mid) ∧ f a mid = some (b, rest) := by
  change (d ws).bind (fun p => f p.1 p.2) = _ ↔ _
  rw [Option.bind_eq_some_iff]
  exact ⟨fun ⟨p, hd, hf⟩ => ⟨p.1, p.2, hd, hf⟩, fun ⟨a, mid, hd, hf⟩ => ⟨(a, mid), hd, hf⟩⟩

theorem pure_eq_some {a b : α} : (pure a : Reader ω α) ws = some (b, rest) ↔ a = b ∧ ws = rest := by
  change some (a, ws) = some (b, rest) ↔ _
  rw [Option.some_inj, Prod.mk_inj]

theorem map_eq_some {f : α → β} {b : β} :
    (f <$> d) ws = some (b, rest) ↔ ∃ a, d ws = some (a, rest) ∧ f a = b := by
  rw [← bind_pure_comp, bind_eq_some]
  constructor
  · rintro ⟨a, mid, hd, h⟩
    obtain ⟨hb, rfl⟩ := pure_eq_some.mp h
    exact ⟨a, hd, hb⟩
  · rintro ⟨a, hd, hb⟩
    exact ⟨a, rest, hd, pure_eq_some.mpr ⟨hb, rfl⟩⟩

end Runs

/-- Only the encoding of a value is read as the value. -/
def Canonical (d : Reader ω α) (enc : α → List ω) : Prop :=
  ∀ ⦃ws a rest⦄, d ws = some (a, rest) → ws = enc a ++ rest

namespace Canonical

variable {d : Reader ω α} {enc : α → List ω}

theorem next : Canonical (next : Reader ω ω) fun w => [w] := by
  intro ws w rest h
  cases ws with
  | nil => cases h
  | cons w' ws =>
    obtain ⟨rfl, rfl⟩ := Prod.mk.inj (Option.some.inj h)
    rfl

theorem vector (h : Canonical d enc) (n : Nat) :
    Canonical (vector d n) fun v => v.toList.flatMap enc := by
  induction n with
  | zero =>
    intro ws v rest hread
    obtain ⟨rfl, rfl⟩ := pure_eq_some.mp hread
    rfl
  | succ n ih =>
    intro ws v rest hread
    obtain ⟨a, mid, ha, hread⟩ := bind_eq_some.mp hread
    obtain ⟨tail, left, htail, hread⟩ := bind_eq_some.mp hread
    obtain ⟨rfl, rfl⟩ := pure_eq_some.mp hread
    change ws = (a ::ᵥ tail).toList.flatMap enc ++ left
    rw [h ha, ih htail, List.Vector.toList_cons, List.flatMap_cons, List.append_assoc]

theorem list (h : Canonical d enc) (n : Nat) : Canonical (list d n) fun as => as.flatMap enc := by
  intro ws as rest hread
  obtain ⟨v, hv, rfl⟩ := map_eq_some.mp hread
  exact h.vector n hv

end Canonical

theorem length_of_list {d : Reader ω α} {n : Nat} {ws rest : List ω} {as : List α}
    (h : list d n ws = some (as, rest)) : as.length = n := by
  obtain ⟨v, -, rfl⟩ := map_eq_some.mp h
  exact v.toList_length

end StreamReader
