import Mathlib.Data.List.Basic

/-! Collisions among named inputs. A function from all byte strings to a
fixed-width digest always has some collision, so only a collision between
inputs that were really hashed says anything. -/

section

variable {α β : Type*} (h : α → β)

def Collision (x y : α) : Prop := x ≠ y ∧ h x = h y

def CollisionIn (xs : List α) : Prop := ∃ x ∈ xs, ∃ y ∈ xs, Collision h x y

instance [DecidableEq α] [DecidableEq β] (x y : α) : Decidable (Collision h x y) :=
  inferInstanceAs (Decidable (x ≠ y ∧ h x = h y))

instance [DecidableEq α] [DecidableEq β] (xs : List α) : Decidable (CollisionIn h xs) :=
  inferInstanceAs (Decidable (∃ x ∈ xs, ∃ y ∈ xs, Collision h x y))

end

section

variable {α β : Type*} {h : α → β}

theorem eq_or_collision {x y : α} (he : h x = h y) : x = y ∨ Collision h x y := by
  by_cases hxy : x = y
  · exact .inl hxy
  · exact .inr ⟨hxy, he⟩

theorem Collision.symm {x y : α} (hc : Collision h x y) : Collision h y x :=
  ⟨hc.1.symm, hc.2.symm⟩

theorem Collision.mem {x y : α} {xs : List α} (hc : Collision h x y) (hx : x ∈ xs) (hy : y ∈ xs) :
    CollisionIn h xs := ⟨x, hx, y, hy, hc⟩

theorem CollisionIn.mono {xs ys : List α} (hc : CollisionIn h xs) (hs : xs ⊆ ys) :
    CollisionIn h ys := by
  obtain ⟨x, hx, y, hy, he⟩ := hc
  exact ⟨x, hs hx, y, hs hy, he⟩

/-- A collision of `h` after an injective encoding is one of `h` itself. -/
theorem CollisionIn.of_comp {γ : Type*} {enc : γ → α} {xs : List γ}
    (henc : Function.Injective enc) (hc : CollisionIn (h ∘ enc) xs) :
    CollisionIn h (xs.map enc) := by
  obtain ⟨x, hx, y, hy, hne, he⟩ := hc
  exact ⟨enc x, List.mem_map_of_mem hx, enc y, List.mem_map_of_mem hy, fun hh => hne (henc hh), he⟩

end
