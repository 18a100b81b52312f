import Mathlib
import MarkupModule.Encoding.Utf16
import MarkupModule.Proofs.Encoding.Utf8

/-! UTF-16, like UTF-8, is decoded to a text exactly when it is its encoding, in either byte order. The
bytes form units and the units characters: a lone surrogate, a pair in the wrong order and an odd byte
at the end are no encoding of anything. -/

namespace MarkupModule.Encoding.Utf16

open Utf8 (toNat_ofNat_of_lt)

/-! ### Units -/

/-- Whether the numbers are units, of two bytes each. -/
def AreUnits (units : List Nat) : Prop :=
  ∀ u ∈ units, u < 0x10000

theorem areUnits_cons {u : Nat} {units : List Nat} :
    AreUnits (u :: units) ↔ u < 0x10000 ∧ AreUnits units :=
  List.forall_mem_cons

theorem areUnits_append {units units' : List Nat} :
    AreUnits (units ++ units') ↔ AreUnits units ∧ AreUnits units' :=
  List.forall_mem_append

theorem units?_unitBytes_append (order : ByteOrder) {u : Nat} (hu : u < 0x10000)
    (rest : List UInt8) :
    units? order (unitBytes order u ++ rest) = (units? order rest).map (u :: ·) := by
  have hlow : (UInt8.ofNat (u % 256)).toNat = u % 256 := toNat_ofNat_of_lt (by omega)
  have hhigh : (UInt8.ofNat (u / 256)).toNat = u / 256 := toNat_ofNat_of_lt (by omega)
  have hunit : u / 256 * 256 + u % 256 = u := by omega
  cases order with
  | little =>
      rw [unitBytes, List.cons_append, List.singleton_append, units?, hlow, hhigh, hunit]
  | big =>
      rw [unitBytes, List.cons_append, List.singleton_append, units?, hlow, hhigh, hunit]

theorem units?_unitBytes (order : ByteOrder) {units : List Nat} (h : AreUnits units) :
    units? order (units.flatMap (unitBytes order)) = some units := by
  induction units with
  | nil => rfl
  | cons u rest ih =>
      obtain ⟨hu, hrest⟩ := areUnits_cons.mp h
      rw [List.flatMap_cons, units?_unitBytes_append order hu, ih hrest]
      rfl

/-- Two bytes are the bytes of the unit that they form. -/
theorem exists_unitBytes (order : ByteOrder) (a b : UInt8) :
    ∃ u, u < 0x10000 ∧ unitBytes order u = [a, b] := by
  have ha := a.toNat_lt
  have hb := b.toNat_lt
  cases order with
  | little =>
      refine ⟨b.toNat * 256 + a.toNat, by omega, ?_⟩
      rw [unitBytes, show (b.toNat * 256 + a.toNat) % 256 = a.toNat by omega,
        show (b.toNat * 256 + a.toNat) / 256 = b.toNat by omega, UInt8.ofNat_toNat, UInt8.ofNat_toNat]
  | big =>
      refine ⟨a.toNat * 256 + b.toNat, by omega, ?_⟩
      rw [unitBytes, show (a.toNat * 256 + b.toNat) % 256 = b.toNat by omega,
        show (a.toNat * 256 + b.toNat) / 256 = a.toNat by omega, UInt8.ofNat_toNat, UInt8.ofNat_toNat]

theorem units?_eq_some_iff {order : ByteOrder} {bytes : List UInt8} {units : List Nat} :
    units? order bytes = some units ↔
      AreUnits units ∧ bytes = units.flatMap (unitBytes order) := by
  constructor
  · intro h
    induction units generalizing bytes with
    | nil =>
        match bytes with
        | [] => exact ⟨List.forall_mem_nil _, rfl⟩
        | [_] => cases h
        | a :: b :: rest =>
            obtain ⟨_, -, hcons⟩ := Option.map_eq_some_iff.mp h
            cases hcons
    | cons v units ih =>
        match bytes with
        | [] => cases h
        | [_] => cases h
        | a :: b :: rest =>
            obtain ⟨u, hu, hbytes⟩ := exists_unitBytes order a b
            have happend : a :: b :: rest = unitBytes order u ++ rest := by
              rw [hbytes]
              rfl
            rw [happend, units?_unitBytes_append order hu] at h
            obtain ⟨units', hrest, hcons⟩ := Option.map_eq_some_iff.mp h
            obtain ⟨rfl, rfl⟩ := List.cons.inj hcons
            obtain ⟨hunits, rfl⟩ := ih hrest
            exact ⟨areUnits_cons.mpr ⟨hu, hunits⟩, by rw [happend, List.flatMap_cons]⟩
  · rintro ⟨hunits, rfl⟩
    exact units?_unitBytes order hunits

/-! ### Characters -/

theorem areUnits_unitsOf (c : Char) : AreUnits (unitsOf c) := by
  have hlt := Utf8.toNat_lt c
  rw [unitsOf]
  split
  · rename_i hone
    exact areUnits_cons.mpr ⟨hone, List.forall_mem_nil _⟩
  · exact areUnits_cons.mpr ⟨by omega, areUnits_cons.mpr ⟨by omega, List.forall_mem_nil _⟩⟩

theorem areUnits_flatMap_unitsOf (s : List Char) : AreUnits (s.flatMap unitsOf) := by
  intro u hu
  obtain ⟨c, -, hc⟩ := List.mem_flatMap.mp hu
  exact areUnits_unitsOf c u hc

/-- Whether a unit is the first of a pair. -/
def leads (u : Nat) : Bool :=
  0xD800 ≤ u && u < 0xDC00

theorem leads_iff {u : Nat} : leads u = true ↔ 0xD800 ≤ u ∧ u < 0xDC00 := by
  rw [leads, Bool.and_eq_true, decide_eq_true_eq, decide_eq_true_eq]

/-- Whether a unit is the second of a pair. -/
def trails (u : Nat) : Bool :=
  0xDC00 ≤ u && u < 0xE000

theorem trails_iff {u : Nat} : trails u = true ↔ 0xDC00 ≤ u ∧ u < 0xE000 := by
  rw [trails, Bool.and_eq_true, decide_eq_true_eq, decide_eq_true_eq]

/-- The number of the character that a pair of units is read as. -/
def paired (u v : Nat) : Nat :=
  0x10000 + (u - 0xD800) * 1024 + (v - 0xDC00)

theorem ofUnits?_of_isValidChar {u : Nat} (h : u.isValidChar) (rest : List Nat) :
    ofUnits? (u :: rest) = (ofUnits? rest).map (Char.ofNatAux u h :: ·) := by
  rw [ofUnits?.eq_def]
  exact dif_pos h

theorem ofUnits?_of_leads {u : Nat} (h : leads u = true) (rest : List Nat) :
    ofUnits? (u :: rest) =
      match rest with
      | [] => none
      | v :: rest' =>
        if trails v then (ofUnits? rest').map (Char.ofNat (paired u v) :: ·) else none := by
  have hinvalid : ¬ u.isValidChar := by
    have hbounds := leads_iff.mp h
    rintro (hlow | hhigh) <;> omega
  rw [ofUnits?.eq_def]
  dsimp only
  rw [dif_neg hinvalid]
  exact if_pos h

theorem ofUnits?_of_stray {u : Nat} (hvalid : ¬ u.isValidChar) (h : ¬ leads u = true)
    (rest : List Nat) : ofUnits? (u :: rest) = none := by
  rw [ofUnits?.eq_def]
  dsimp only
  rw [dif_neg hvalid]
  exact if_neg h

theorem ofUnits?_unitsOf_append (c : Char) (rest : List Nat) :
    ofUnits? (unitsOf c ++ rest) = (ofUnits? rest).map (c :: ·) := by
  have hlt := Utf8.toNat_lt c
  rw [unitsOf]
  split
  · have hvalid : c.toNat.isValidChar := c.valid
    rw [List.singleton_append, ofUnits?_of_isValidChar hvalid]
    rfl
  · rename_i hpair
    have hleads : leads (0xD800 + (c.toNat - 0x10000) / 1024) = true :=
      leads_iff.mpr (by omega)
    have htrails : trails (0xDC00 + (c.toNat - 0x10000) % 1024) = true :=
      trails_iff.mpr (by omega)
    have hnumber : paired (0xD800 + (c.toNat - 0x10000) / 1024)
        (0xDC00 + (c.toNat - 0x10000) % 1024) = c.toNat := by
      unfold paired
      omega
    rw [List.cons_append, List.singleton_append, ofUnits?_of_leads hleads]
    dsimp only
    rw [if_pos htrails, hnumber, Char.ofNat_toNat]

theorem ofUnits?_unitsOf (s : List Char) : ofUnits? (s.flatMap unitsOf) = some s := by
  induction s with
  | nil => rw [List.flatMap_nil, ofUnits?]
  | cons c rest ih =>
      rw [List.flatMap_cons, ofUnits?_unitsOf_append, ih]
      rfl

/-- A pair of surrogates forms the units of a character. -/
theorem unitsOf_paired {u v : Nat} (hu : leads u = true) (hv : trails v = true) :
    unitsOf (Char.ofNat (paired u v)) = [u, v] := by
  obtain ⟨hu, hu'⟩ := leads_iff.mp hu
  obtain ⟨hv, hv'⟩ := trails_iff.mp hv
  generalize hn : paired u v = n
  unfold paired at hn
  have hnumber : (Char.ofNat n).toNat = n := by
    have hvalid : n.isValidChar := Or.inr (by omega)
    rw [Char.ofNat, dif_pos hvalid]
    rfl
  have hlead : 0xD800 + (n - 0x10000) / 1024 = u := by omega
  have htrail : 0xDC00 + (n - 0x10000) % 1024 = v := by omega
  rw [unitsOf, hnumber, if_neg (by omega), hlead, htrail]

/-- Units that are decoded begin with the units of the first character. -/
theorem exists_of_ofUnits?_cons {u : Nat} {units : List Nat} {s : List Char}
    (hunits : AreUnits (u :: units)) (h : ofUnits? (u :: units) = some s) :
    ∃ c rest, unitsOf c ++ rest = u :: units ∧ (ofUnits? rest).map (c :: ·) = some s := by
  by_cases hvalid : u.isValidChar
  · rw [ofUnits?_of_isValidChar hvalid] at h
    refine ⟨Char.ofNatAux u hvalid, units, ?_, h⟩
    have hnumber : (Char.ofNatAux u hvalid).toNat = u := rfl
    rw [unitsOf, hnumber, if_pos (areUnits_cons.mp hunits).1]
    rfl
  by_cases hleads : leads u = true
  · rw [ofUnits?_of_leads hleads] at h
    cases units with
    | nil => cases h
    | cons v rest =>
        dsimp only at h
        split at h
        · rename_i htrails
          refine ⟨Char.ofNat (paired u v), rest, ?_, h⟩
          rw [unitsOf_paired hleads htrails]
          rfl
        · cases h
  · rw [ofUnits?_of_stray hvalid hleads] at h
    cases h

theorem ofUnits?_eq_some_iff {units : List Nat} (hunits : AreUnits units) {s : List Char} :
    ofUnits? units = some s ↔ units = s.flatMap unitsOf := by
  constructor
  · intro h
    induction s generalizing units with
    | nil =>
        cases units with
        | nil => rfl
        | cons u units =>
            obtain ⟨c, rest, -, hrest⟩ := exists_of_ofUnits?_cons hunits h
            obtain ⟨t, -, ht⟩ := Option.map_eq_some_iff.mp hrest
            cases ht
    | cons c s ih =>
        cases units with
        | nil =>
            rw [ofUnits?] at h
            cases h
        | cons u units =>
            obtain ⟨c', rest, hcons, hrest⟩ := exists_of_ofUnits?_cons hunits h
            obtain ⟨t, ht, hs⟩ := Option.map_eq_some_iff.mp hrest
            obtain ⟨rfl, rfl⟩ := List.cons.inj hs
            rw [← hcons] at hunits ⊢
            rw [ih (areUnits_append.mp hunits).2 ht, List.flatMap_cons]
  · rintro rfl
    exact ofUnits?_unitsOf s

/-! ### Bytes -/

/-- Bytes are decoded to a text when they are its encoding, and only then. -/
theorem decode?_eq_some_iff {order : ByteOrder} {bytes : List UInt8} {s : List Char} :
    decode? order bytes = some s ↔ bytes = encode order s := by
  rw [decode?, Option.bind_eq_some_iff]
  constructor
  · rintro ⟨units, hbytes, hread⟩
    obtain ⟨hunits, rfl⟩ := units?_eq_some_iff.mp hbytes
    rw [encode, (ofUnits?_eq_some_iff hunits).mp hread]
  · rintro rfl
    have hunits := areUnits_flatMap_unitsOf s
    exact ⟨_, units?_eq_some_iff.mpr ⟨hunits, rfl⟩, ofUnits?_unitsOf s⟩

end MarkupModule.Encoding.Utf16
