import BalanceAttestation.SequencerReplies

/-! Which snapshot an account becomes. The public variant fills in the members it
does not find, so an object with neither of them is read as an empty account. -/

namespace BalanceAttestation

open SerdeJson

namespace AccountSnapshot

/-- An object with both members of a public account. -/
def CarriesPublic (v : Value) (nonce : UInt64) (data : List UInt8) : Prop :=
  ∃ get, v = .object get ∧ get "nonce" = some (.number (.posInt nonce)) ∧
    get "data" = some (.ofBytes data)

def Keeps (v : Value) (snapshot : AccountSnapshot) : Prop :=
  (∀ nonce data, snapshot = .public nonce data → CarriesPublic v nonce data) ∧
    ((¬ ∃ nonce data, CarriesPublic v nonce data) → snapshot = .raw v)

/-- One of the two members is absent, and one that is there is of its type. -/
def FillsIn (v : Value) : Prop :=
  ∃ get, v = .object get ∧ (get "nonce" = none ∨ get "data" = none) ∧
    (∀ nonce, get "nonce" = some nonce → ∃ n, nonce = .number (.posInt n)) ∧
    ∀ data, get "data" = some data → ∃ bytes, data = .ofBytes bytes

variable {v : Value} {nonce : UInt64} {data : List UInt8}

theorem u8Value_eq_some {b : UInt8} : u8Value v = some b ↔ v = .number (.posInt b.toUInt64) := by
  have h := SequencerClient.byte_eq_ok (v := v) (b := b) (e := .emptyResponse)
  rwa [Checks.okOr_ok] at h

theorem mapM_u8Value {elements : List Value} {bytes : List UInt8} :
    elements.mapM u8Value = some bytes ↔ Value.array elements = .ofBytes bytes := by
  rw [Value.ofBytes, Value.array.injEq]
  induction elements generalizing bytes with
  | nil => cases bytes <;> simp
  | cons v elements ih =>
    rw [List.mapM_cons]
    simp only [Option.bind_eq_bind, Option.bind_eq_some_iff, u8Value_eq_some, ih]
    constructor
    · rintro ⟨b, rfl, rest, rfl, h⟩
      rw [← Option.some.inj h, List.map_cons]
    · intro h
      cases bytes with
      | nil => cases h
      | cons b bytes =>
        obtain ⟨rfl, rfl⟩ := List.cons.inj h
        exact ⟨b, rfl, bytes, rfl, rfl⟩

theorem bytesValue_eq_some : bytesValue v = some data ↔ v = .ofBytes data := by
  simp only [bytesValue, Option.bind_eq_some_iff, Value.asArray_eq_some, mapM_u8Value]
  constructor
  · rintro ⟨elements, rfl, h⟩
    exact h
  · rintro rfl
    exact ⟨_, rfl, rfl⟩

/-- The members the variant reads, and what it takes for one that is absent. -/
theorem publicFromValue_eq_some {snapshot : AccountSnapshot} : publicFromValue v = some snapshot ↔
    ∃ get nonce data, v = .object get ∧ snapshot = .public nonce data ∧
      (get "nonce" = some (.number (.posInt nonce)) ∨ (get "nonce" = none ∧ nonce = 0)) ∧
      (get "data" = some (.ofBytes data) ∨ (get "data" = none ∧ data = [])) := by
  cases v with
  | object get =>
    simp only [publicFromValue, Option.bind_eq_bind, Option.bind_eq_some_iff, Value.defaulted_eq_some,
      Value.asU64_eq_some, bytesValue_eq_some, exists_eq_right]
    constructor
    · rintro ⟨nonce, hnonce, data, hdata, h⟩
      exact ⟨get, nonce, data, rfl, (Option.some.inj h).symm, hnonce, hdata⟩
    · rintro ⟨_, nonce, data, hget, rfl, hnonce, hdata⟩
      obtain rfl := Value.object.inj hget
      exact ⟨nonce, hnonce, data, hdata, rfl⟩
  | null | bool _ | number _ | string _ | array _ => simp [publicFromValue]

theorem fillsIn_iff : FillsIn v ↔ ∃ snapshot, publicFromValue v = some snapshot ∧
    ¬ ∃ nonce data, CarriesPublic v nonce data := by
  constructor
  · rintro ⟨get, rfl, habsent, hnonce, hdata⟩
    have hn : ∃ n, get "nonce" = some (.number (.posInt n)) ∨ (get "nonce" = none ∧ n = 0) := by
      cases h : get "nonce" with
      | none => exact ⟨0, .inr ⟨rfl, rfl⟩⟩
      | some v =>
        obtain ⟨n, rfl⟩ := hnonce v h
        exact ⟨n, .inl rfl⟩
    have hd : ∃ bytes, get "data" = some (.ofBytes bytes) ∨ (get "data" = none ∧ bytes = []) := by
      cases h : get "data" with
      | none => exact ⟨[], .inr ⟨rfl, rfl⟩⟩
      | some v =>
        obtain ⟨bytes, rfl⟩ := hdata v h
        exact ⟨bytes, .inl rfl⟩
    obtain ⟨n, hn⟩ := hn
    obtain ⟨bytes, hd⟩ := hd
    refine ⟨.public n bytes, publicFromValue_eq_some.mpr ⟨get, n, bytes, rfl, rfl, hn, hd⟩, ?_⟩
    rintro ⟨n', data', _, hget, hnonce', hdata'⟩
    obtain rfl := Value.object.inj hget
    rcases habsent with h | h
    · cases h.symm.trans hnonce'
    · cases h.symm.trans hdata'
  · rintro ⟨snapshot, hpublic, hcarries⟩
    obtain ⟨get, n, bytes, rfl, rfl, hn, hd⟩ := publicFromValue_eq_some.mp hpublic
    refine ⟨get, rfl, ?_, ?_, ?_⟩
    · rcases hn with hn | ⟨hn, -⟩
      · rcases hd with hd | ⟨hd, -⟩
        · exact absurd ⟨n, bytes, get, rfl, hn, hd⟩ hcarries
        · exact .inr hd
      · exact .inl hn
    · intro nonce hnonce
      rcases hn with hn | ⟨hn, -⟩
      · exact ⟨n, Option.some.inj (hnonce.symm.trans hn)⟩
      · cases hn.symm.trans hnonce
    · intro data hdata
      rcases hd with hd | ⟨hd, -⟩
      · exact ⟨bytes, Option.some.inj (hdata.symm.trans hd)⟩
      · cases hd.symm.trans hdata

theorem publicFromValue_of_carries (h : CarriesPublic v nonce data) :
    publicFromValue v = some (.public nonce data) := by
  obtain ⟨get, rfl, hnonce, hdata⟩ := h
  exact publicFromValue_eq_some.mpr ⟨get, nonce, data, rfl, rfl, .inl hnonce, .inl hdata⟩

theorem fromValue_keeps_iff (v : Value) : Keeps v (fromValue v) ↔ ¬ FillsIn v := by
  rw [fillsIn_iff, fromValue]
  constructor
  · rintro ⟨-, hraw⟩ ⟨snapshot, hpublic, hcarries⟩
    obtain ⟨_, _, _, -, rfl, -, -⟩ := publicFromValue_eq_some.mp hpublic
    have h := hraw hcarries
    rw [hpublic] at h
    cases h
  · intro h
    by_cases hcarries : ∃ nonce data, CarriesPublic v nonce data
    · obtain ⟨nonce, data, hv⟩ := hcarries
      rw [publicFromValue_of_carries hv]
      refine ⟨fun nonce' data' heq => ?_, fun hne => absurd ⟨nonce, data, hv⟩ hne⟩
      obtain ⟨rfl, rfl⟩ := AccountSnapshot.public.inj heq
      exact hv
    · have hnone : publicFromValue v = none := by
        cases hp : publicFromValue v with
        | none => rfl
        | some snapshot => exact absurd ⟨snapshot, hp, hcarries⟩ h
      rw [hnone]
      exact ⟨fun _ _ heq => (nomatch heq), fun _ => rfl⟩

end AccountSnapshot

open SequencerClient AccountSnapshot in
/-- An account is kept whole unless the defaults of the public variant step in. -/
theorem getAccount_keeps_iff (v : Value) :
    (Keeps v (fromValue v) ↔ ¬ FillsIn v) ∧
    ∀ server accountId, v ≠ .null → (server (accountRequest accountId)).Returns v →
      getAccount server accountId = .ok (some (fromValue v)) :=
  ⟨fromValue_keeps_iff v, fun _ _ hv h => getAccount_returns hv h⟩

open SequencerClient AccountSnapshot in
/-- The description of a program's account, with its owner, comes back as an empty
public account. -/
theorem getAccount_loses_owner :
    let owner : List (String × Json) := [("program_owner", .string "pda"), ("balance", .number (.posInt 5))]
    let server := Scenario.replying [("result", .object owner)]
    (server (accountRequest "abc")).Returns (Json.object owner).toValue ∧
    getAccount server "abc" = .ok (some (.public 0 [])) ∧
    ¬ Keeps (Json.object owner).toValue (.public 0 []) := by
  refine ⟨⟨_, _, ⟨rfl, rfl⟩, rfl, rfl⟩, rfl, ?_⟩
  rintro ⟨hpublic, -⟩
  obtain ⟨get, hget, hnonce, -⟩ := hpublic 0 [] rfl
  obtain rfl := Value.object.inj hget
  cases hnonce

end BalanceAttestation
