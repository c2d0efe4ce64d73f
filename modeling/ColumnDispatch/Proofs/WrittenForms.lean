import ColumnDispatch.Failure
import ColumnDispatch.Operator.Codec
import Mathlib.Data.List.Infix

/-! The written forms of identifiers, read back. Bytes give a value exactly if they begin with its
written form, whatever is behind it, and JSON gives one exactly if it is the written form; all else
is refused. An index in the right form that names no operator of its class is refused for that
reason, also where the class is read from the bytes before it. -/

namespace ColumnDispatch

/-- A value is found by a key that no other value has. -/
theorem find?_key_eq_some_iff {α κ : Type} [BEq κ] [LawfulBEq κ] {key : α → κ} {l : List α}
    (hall : ∀ a, a ∈ l) (hkey : ∀ a b, key a = key b → a = b) {k : κ} {a : α} :
    l.find? (key · == k) = some a ↔ k = key a := by
  constructor
  · intro hfind
    have hk : key a == k := List.find?_some (p := (key · == k)) hfind
    exact (eq_of_beq hk).symm
  · rintro rfl
    cases hfind : l.find? (key · == key a) with
    | none => exact absurd BEq.rfl (List.find?_eq_none.1 hfind a (hall a))
    | some b =>
      have hb : key b == key a := List.find?_some (p := (key · == key a)) hfind
      rw [hkey b a (eq_of_beq hb)]

/-- What is read once a value is looked up by its key. -/
theorem lookup_eq_ok_iff {α β κ : Type} [BEq κ] [LawfulBEq κ] {key : α → κ} {l : List α}
    (hall : ∀ a, a ∈ l) (hkey : ∀ a b, key a = key b → a = b) {k : κ}
    {read : α → Except DecodeFailure β} {b : β} :
    (l.find? (key · == k)).elim (.error .malformed) read = .ok b ↔
      ∃ a, k = key a ∧ read a = .ok b := by
  simp only [← find?_key_eq_some_iff hall hkey]
  cases l.find? (key · == k) <;> simp

/-! ### Readers of bytes -/

/-- A value is read off the bytes that begin with its written form, with the rest left over, and off
no others; so no written form begins another one. -/
structure ReadsBytes {α : Type} (write : α → List UInt8)
    (read : List UInt8 → Except DecodeFailure (α × List UInt8)) : Prop where
  ok_iff : ∀ bytes v rest, read bytes = .ok (v, rest) ↔ bytes = write v ++ rest
  yields_iff : ∀ bytes v, (∃ rest, read bytes = .ok (v, rest)) ↔ write v <+: bytes
  refuses_iff : ∀ bytes, (∃ failure, read bytes = .error failure) ↔ ∀ v, ¬write v <+: bytes
  prefix_free : ∀ v w, write v <+: write w → v = w

theorem ReadsBytes.of_ok_iff {α : Type} {write : α → List UInt8}
    {read : List UInt8 → Except DecodeFailure (α × List UInt8)}
    (h : ∀ bytes v rest, read bytes = .ok (v, rest) ↔ bytes = write v ++ rest) :
    ReadsBytes write read where
  ok_iff := h
  yields_iff bytes v := by simp only [h, List.IsPrefix, eq_comm]
  refuses_iff bytes := by
    constructor
    · rintro ⟨failure, hfailure⟩ v ⟨rest, hrest⟩
      simp [(h bytes v rest).2 hrest.symm] at hfailure
    · intro hnone
      cases hread : read bytes with
      | error failure => exact ⟨failure, rfl⟩
      | ok result => exact absurd ⟨result.2, ((h bytes _ _).1 hread).symm⟩ (hnone result.1)
  prefix_free v w := by
    rintro ⟨rest, hrest⟩
    have hv := (h (write w) v rest).2 hrest.symm
    have hw := (h (write w) w []).2 (List.append_nil _).symm
    exact (Prod.mk.inj (Except.ok.inj (hv.symm.trans hw))).1

namespace Bytes

/-- A number is read off its own bytes, if it has no more than there are. -/
theorem takeLittleEndian_eq_some_iff {width n : Nat} {bytes rest : List UInt8} :
    takeLittleEndian width bytes = some (n, rest) ↔
      n < 256 ^ width ∧ bytes = littleEndian width n ++ rest := by
  induction width generalizing n bytes rest with
  | zero => simp [takeLittleEndian, littleEndian, eq_comm]
  | succ width ih =>
    cases bytes with
    | nil => simp [takeLittleEndian, littleEndian]
    | cons b bytes =>
      have hb := b.toNat_lt
      simp only [takeLittleEndian, littleEndian, Option.map_eq_some_iff, Prod.exists, ih,
        Prod.mk.injEq, List.cons_append, List.cons.injEq, Nat.pow_succ]
      constructor
      · rintro ⟨m, left, ⟨hm, rfl⟩, rfl, rfl⟩
        have hdiv : (b.toNat + 256 * m) / 256 = m := by omega
        refine ⟨by omega, ?_, by rw [hdiv]⟩
        rw [← UInt8.toNat_inj, UInt8.toNat_ofNat']
        omega
      · rintro ⟨hn, rfl, rfl⟩
        refine ⟨n / 256, rest, ⟨by omega, rfl⟩, ?_, rfl⟩
        rw [UInt8.toNat_ofNat']
        omega

theorem takeLittleEndian_append {width n : Nat} (h : n < 256 ^ width) (rest : List UInt8) :
    takeLittleEndian width (littleEndian width n ++ rest) = some (n, rest) :=
  takeLittleEndian_eq_some_iff.2 ⟨h, rfl⟩

theorem eq_littleEndian_append_iff {width n : Nat} (h : n < 256 ^ width)
    {bytes rest : List UInt8} :
    bytes = littleEndian width n ++ rest ↔ takeLittleEndian width bytes = some (n, rest) := by
  rw [takeLittleEndian_eq_some_iff]
  exact (and_iff_right h).symm

end Bytes

/-! ### Operators of a known class -/

namespace Catalogue

variable {Op : Type} [Catalogue Op]

theorem index_lt (hcount : count Op ≤ 256) (op : Op) : index op < 256 :=
  Nat.lt_of_lt_of_le (index_lt_count op) hcount

theorem decodeIndex_eq_ok_iff {i : Nat} {op : Op} :
    decodeIndex Op i = .ok op ↔ i = index op := by
  rw [← ofIndex?_eq_some_iff, decodeIndex, ofIndex]
  cases ofIndex? Op i <;> simp [Except.mapError]

theorem decodeIndex_of_count_le {i : Nat} (h : count Op ≤ i) :
    decodeIndex Op i = .error (.index ⟨operandClass Op, i, count Op⟩) := by
  have hnone : ofIndex? Op i = none := List.getElem?_eq_none h
  simp only [decodeIndex, ofIndex, hnone, Except.mapError]

/-- The byte is read first, and then looked up. -/
theorem ofBytes_eq_ok_iff_decodeIndex {bytes rest : List UInt8} {op : Op} :
    ofBytes Op bytes = .ok (op, rest) ↔
      ∃ i, Bytes.takeLittleEndian 1 bytes = some (i, rest) ∧ decodeIndex Op i = .ok op := by
  rw [ofBytes]
  cases Bytes.takeLittleEndian 1 bytes with
  | none => simp
  | some taken =>
    obtain ⟨i, left⟩ := taken
    cases hdecode : decodeIndex Op i <;>
      simp [bind, Except.bind, pure, Except.pure, hdecode, and_comm]

theorem ofBytes_eq_ok_iff (hcount : count Op ≤ 256) {bytes rest : List UInt8} {op : Op} :
    ofBytes Op bytes = .ok (op, rest) ↔ bytes = toBytes op ++ rest := by
  have hindex : index op < 256 ^ 1 := index_lt hcount op
  simp only [ofBytes_eq_ok_iff_decodeIndex, decodeIndex_eq_ok_iff, exists_eq_right,
    Bytes.takeLittleEndian_eq_some_iff, hindex, true_and]
  rfl

theorem ofBytes_of_count_le {i : UInt8} (h : count Op ≤ i.toNat) (rest : List UInt8) :
    ofBytes Op (i :: rest) = .error (.index ⟨operandClass Op, i.toNat, count Op⟩) := by
  rw [ofBytes]
  simp only [Bytes.takeLittleEndian, Option.map_some, Nat.mul_zero, Nat.add_zero,
    decodeIndex_of_count_le h]
  rfl

theorem ofJson_eq_ok_iff (hcount : count Op ≤ 256) {j : Json} {op : Op} :
    ofJson Op j = .ok op ↔ j = .integer (index op) := by
  have hindex := index_lt hcount op
  cases j with
  | integer i =>
    rw [ofJson, Json.integer.injEq]
    by_cases hi : 0 ≤ i ∧ i < 256
    · rw [if_pos hi, decodeIndex_eq_ok_iff]
      omega
    · rw [if_neg hi]
      exact iff_of_false nofun (by omega)
  | _ => exact iff_of_false nofun nofun

/-- The written forms of the operators of a class: one byte, which is the index, and the index as a
JSON integer. -/
structure WrittenByIndex (Op : Type) [Catalogue Op] : Prop where
  bytes : ReadsBytes (toBytes : Op → List UInt8) (ofBytes Op)
  byte : ∀ op : Op, ∃ i : UInt8, toBytes op = [i] ∧ i.toNat = index op
  out_of_range : ∀ (i : UInt8) rest, count Op ≤ i.toNat →
    ofBytes Op (i :: rest) = .error (.index ⟨operandClass Op, i.toNat, count Op⟩)
  json : ∀ j op, ofJson Op j = .ok op ↔ j = .integer (index op)

theorem writtenByIndex (hcount : count Op ≤ 256) : WrittenByIndex Op where
  bytes := .of_ok_iff fun _ _ _ => ofBytes_eq_ok_iff hcount
  byte op := ⟨UInt8.ofNat (index op), rfl, UInt8.toNat_ofNat_of_lt' (index_lt hcount op)⟩
  out_of_range _ rest h := ofBytes_of_count_le h rest
  json _ _ := ofJson_eq_ok_iff hcount

end Catalogue

/-! ### Operators of any class -/

namespace OperandClass

/-- The number of operators of the class. -/
def size : OperandClass → Nat
  | unary => Catalogue.count UnaryOperator
  | binary => Catalogue.count BinaryOperator
  | variadic => Catalogue.count VariadicOperator

theorem mem_all (c : OperandClass) : c ∈ all := by cases c <;> decide

theorem index_lt (c : OperandClass) : c.index < 256 ^ 4 := by cases c <;> decide

theorem index_injective (c c' : OperandClass) (h : c.index = c'.index) : c = c' := by
  have hall : ∀ c ∈ all, ∀ c' ∈ all, c.index = c'.index → c = c' := by decide
  exact hall c (mem_all c) c' (mem_all c') h

theorem tag_injective (c c' : OperandClass) (h : c.tag = c'.tag) : c = c' := by
  have hall : ∀ c ∈ all, ∀ c' ∈ all, c.tag = c'.tag → c = c' := by decide
  exact hall c (mem_all c) c' (mem_all c') h

end OperandClass

namespace Operator

open Catalogue

/-- What is read off the operators of a class is read off the operators of any class that are of
that class. -/
theorem ofClass_eq_ok_iff {α : Type} {a : α}
    {read : (Op : Type) → [Catalogue Op] → Except DecodeFailure α} {P : Operator → Nat → Prop}
    (h : ∀ (Op : Type) [Catalogue Op], count Op ≤ 256 →
      (read Op = .ok a ↔ ∃ op : Op, P (toOperator op) (Catalogue.index op))) (c : OperandClass) :
    ofClass c read = .ok a ↔ ∃ op : Operator, op.operandClass = c ∧ P op op.index := by
  cases c with
  | unary =>
    refine (h UnaryOperator (by decide)).trans ⟨fun ⟨op, hop⟩ => ⟨.unary op, rfl, hop⟩, ?_⟩
    rintro ⟨op | op | op, hclass, hop⟩
    · exact ⟨op, hop⟩
    · cases hclass
    · cases hclass
  | binary =>
    refine (h BinaryOperator (by decide)).trans ⟨fun ⟨op, hop⟩ => ⟨.binary op, rfl, hop⟩, ?_⟩
    rintro ⟨op | op | op, hclass, hop⟩
    · cases hclass
    · exact ⟨op, hop⟩
    · cases hclass
  | variadic =>
    refine (h VariadicOperator (by decide)).trans ⟨fun ⟨op, hop⟩ => ⟨.variadic op, rfl, hop⟩, ?_⟩
    rintro ⟨op | op | op, hclass, hop⟩
    · cases hclass
    · cases hclass
    · exact ⟨op, hop⟩

/-- What is read by a class that is looked up first. -/
theorem lookup_ofClass_eq_ok_iff {α κ : Type} [BEq κ] [LawfulBEq κ] {key : OperandClass → κ}
    (hkey : ∀ c c', key c = key c' → c = c') {a : α}
    {read : (Op : Type) → [Catalogue Op] → Except DecodeFailure α} {P : Operator → Nat → Prop}
    (h : ∀ (Op : Type) [Catalogue Op], count Op ≤ 256 →
      (read Op = .ok a ↔ ∃ op : Op, P (toOperator op) (Catalogue.index op))) {k : κ} :
    (OperandClass.all.find? (key · == k)).elim (.error .malformed) (ofClass · read) = .ok a ↔
      ∃ op : Operator, k = key op.operandClass ∧ P op op.index := by
  simp only [lookup_eq_ok_iff OperandClass.mem_all hkey, ofClass_eq_ok_iff h]
  constructor
  · rintro ⟨c, hk, op, rfl, hop⟩
    exact ⟨op, hk, hop⟩
  · rintro ⟨op, hk, hop⟩
    exact ⟨op.operandClass, hk, op, rfl, hop⟩

theorem ofBytes_of_class {bytes left : List UInt8} {number : Nat}
    (h : Bytes.takeLittleEndian 4 bytes = some (number, left)) :
    ofBytes bytes =
      (OperandClass.all.find? (·.index == number)).elim (.error .malformed) (ofClass · fun Op =>
        (Catalogue.ofBytes Op left).map fun (op, rest) => (toOperator op, rest)) := by
  simp only [ofBytes, h]
  cases OperandClass.all.find? (·.index == number) <;> rfl

theorem ofBytes_eq_ok_iff {bytes rest : List UInt8} {op : Operator} :
    ofBytes bytes = .ok (op, rest) ↔ bytes = op.toBytes ++ rest := by
  rw [toBytes, List.append_assoc, Bytes.eq_littleEndian_append_iff op.operandClass.index_lt]
  cases htake : Bytes.takeLittleEndian 4 bytes with
  | none =>
    rw [ofBytes, htake]
    exact iff_of_false nofun nofun
  | some taken =>
    obtain ⟨number, left⟩ := taken
    have hread (Op : Type) [Catalogue Op] (hcount : count Op ≤ 256) :
        ((Catalogue.ofBytes Op left).map fun (op, rest) => (toOperator op, rest)) =
            .ok (op, rest) ↔
          ∃ op' : Op, toOperator op' = op ∧
            left = Bytes.littleEndian 1 (Catalogue.index op') ++ rest := by
      simp only [except_map_eq_ok_iff, Prod.exists, Prod.mk.injEq, exists_eq_right_right,
        Catalogue.ofBytes_eq_ok_iff hcount]
      exact exists_congr fun _ => and_comm
    rw [ofBytes_of_class htake, lookup_ofClass_eq_ok_iff OperandClass.index_injective
      (P := fun op' i => op' = op ∧ left = Bytes.littleEndian 1 i ++ rest) hread]
    simp

theorem ofJson_object_eq_ok_iff {tag : String} {index : Json} {op : Operator} :
    ofJson (.object [(tag, index)]) = .ok op ↔
      tag = op.operandClass.tag ∧ index = .integer op.index := by
  have hclass : ofJson (.object [(tag, index)]) =
      (OperandClass.all.find? (·.tag == tag)).elim (.error .malformed) (ofClass · fun Op =>
        (Catalogue.ofJson Op index).map toOperator) := by
    rw [ofJson]
    cases OperandClass.all.find? (·.tag == tag) <;> rfl
  have hread (Op : Type) [Catalogue Op] (hcount : count Op ≤ 256) :
      (Catalogue.ofJson Op index).map toOperator = .ok op ↔
        ∃ op' : Op, toOperator op' = op ∧ index = .integer (Catalogue.index op') := by
    simp only [except_map_eq_ok_iff, Catalogue.ofJson_eq_ok_iff hcount, and_comm]
  rw [hclass, lookup_ofClass_eq_ok_iff OperandClass.tag_injective
    (P := fun op' i => op' = op ∧ index = .integer i) hread]
  simp

theorem ofJson_eq_ok_iff {j : Json} {op : Operator} :
    ofJson j = .ok op ↔ j = .object [(op.operandClass.tag, .integer op.index)] := by
  constructor
  · intro h
    have hform : ∃ tag index, j = .object [(tag, index)] := by
      rw [ofJson.eq_def] at h
      split at h
      · exact ⟨_, _, rfl⟩
      · cases h
    obtain ⟨tag, index, rfl⟩ := hform
    obtain ⟨rfl, rfl⟩ := ofJson_object_eq_ok_iff.1 h
    rfl
  · rintro rfl
    exact ofJson_object_eq_ok_iff.2 ⟨rfl, rfl⟩

theorem index_lt (op : Operator) : op.index < 256 := by
  cases op with
  | unary op => exact Catalogue.index_lt (by decide) op
  | binary op => exact Catalogue.index_lt (by decide) op
  | variadic op => exact Catalogue.index_lt (by decide) op

theorem toBytes_eq (op : Operator) :
    op.toBytes = [UInt8.ofNat op.operandClass.index, 0, 0, 0, UInt8.ofNat op.index] := by
  rw [toBytes]
  cases op.operandClass <;> rfl

/-- An index that the class does not have is refused for that, whatever it names in another one. -/
theorem ofBytes_of_size_le (c : OperandClass) {i : UInt8} (h : c.size ≤ i.toNat)
    (rest : List UInt8) :
    ofBytes (Bytes.littleEndian 4 c.index ++ i :: rest) =
      .error (.index ⟨c, i.toNat, c.size⟩) := by
  have hfind : OperandClass.all.find? (·.index == c.index) = some c :=
    (find?_key_eq_some_iff OperandClass.mem_all OperandClass.index_injective).2 rfl
  rw [ofBytes_of_class (Bytes.takeLittleEndian_append c.index_lt _), hfind]
  cases c with
  | unary => exact congrArg (Except.map _) (Catalogue.ofBytes_of_count_le h rest)
  | binary => exact congrArg (Except.map _) (Catalogue.ofBytes_of_count_le h rest)
  | variadic => exact congrArg (Except.map _) (Catalogue.ofBytes_of_count_le h rest)

end Operator

/-! ### Types -/

namespace LogicalType

theorem tag_injective (s t : LogicalType) (h : s.tag = t.tag) : s = t := by
  have hall : ∀ s ∈ all, ∀ t ∈ all, s.tag = t.tag → s = t := by decide
  exact hall s (mem_all s) t (mem_all t) h

theorem getElem?_all_eq_some_iff {n : Nat} {t : LogicalType} : all[n]? = some t ↔ n = t.index := by
  constructor
  · intro h
    have hn : n < all.length := (List.getElem?_eq_some_iff.1 h).1
    exact (List.getElem?_inj hn nodup_all).1 (h.trans (getElem?_index t).symm)
  · rintro rfl
    exact getElem?_index t

theorem ofBytes_eq_ok_iff {bytes rest : List UInt8} {t : LogicalType} :
    ofBytes bytes = .ok (t, rest) ↔ bytes = t.toBytes ++ rest := by
  have hindex : t.index < 256 ^ 4 := by cases t <;> decide
  rw [toBytes, Bytes.eq_littleEndian_append_iff hindex]
  cases htake : Bytes.takeLittleEndian 4 bytes with
  | none =>
    rw [ofBytes, htake]
    exact iff_of_false nofun nofun
  | some taken =>
    obtain ⟨number, left⟩ := taken
    rw [Option.some.injEq, Prod.mk.injEq, ← getElem?_all_eq_some_iff]
    simp only [ofBytes, htake]
    cases all[number]? <;> simp [pure, Except.pure]

theorem ofTag_eq_ok_iff {tag : String} {t : LogicalType} : ofTag tag = .ok t ↔ tag = t.tag := by
  have hlookup : ofTag tag = (all.find? (·.tag == tag)).elim (.error .malformed) .ok := by
    rw [ofTag]
    cases all.find? (·.tag == tag) <;> rfl
  rw [hlookup, lookup_eq_ok_iff mem_all tag_injective]
  simp

/-- A type may also be written as an object that gives its tag no value. -/
theorem ofJson_eq_ok_iff {j : Json} {t : LogicalType} :
    ofJson j = .ok t ↔ j = .string t.tag ∨ j = .object [(t.tag, .null)] := by
  constructor
  · intro h
    rw [ofJson.eq_def] at h
    split at h
    · rw [ofTag_eq_ok_iff.1 h]
      exact .inl rfl
    · rw [ofTag_eq_ok_iff.1 h]
      exact .inr rfl
    · cases h
  · rintro (rfl | rfl)
    · exact ofTag_eq_ok_iff.2 rfl
    · exact ofTag_eq_ok_iff.2 rfl

end LogicalType

/-- Identifiers are read exactly as they are written. -/
theorem identifiers_read_as_written :
    -- operators of a known class
    Catalogue.WrittenByIndex UnaryOperator ∧ Catalogue.WrittenByIndex BinaryOperator ∧
    Catalogue.WrittenByIndex VariadicOperator ∧
    -- operators of any class
    ReadsBytes Operator.toBytes Operator.ofBytes ∧
    (∀ op : Operator, ∃ c i : UInt8, op.toBytes = [c, 0, 0, 0, i] ∧
      c.toNat = op.operandClass.index ∧ i.toNat = op.index) ∧
    (∀ (c : OperandClass) (i : UInt8) rest, c.size ≤ i.toNat →
      Operator.ofBytes (Bytes.littleEndian 4 c.index ++ i :: rest) =
        .error (.index ⟨c, i.toNat, c.size⟩)) ∧
    (∀ j op, Operator.ofJson j = .ok op ↔
      j = .object [(op.operandClass.tag, .integer op.index)]) ∧
    -- types
    ReadsBytes LogicalType.toBytes LogicalType.ofBytes ∧
    (∀ t : LogicalType, ∃ n : UInt8, t.toBytes = [n, 0, 0, 0] ∧ n.toNat = t.index) ∧
    ∀ j t, LogicalType.ofJson j = .ok t ↔ j = .string t.tag ∨ j = .object [(t.tag, .null)] := by
  refine ⟨Catalogue.writtenByIndex (by decide), Catalogue.writtenByIndex (by decide),
    Catalogue.writtenByIndex (by decide), .of_ok_iff fun _ _ _ => Operator.ofBytes_eq_ok_iff,
    fun op => ?_, fun c i rest h => Operator.ofBytes_of_size_le c h rest,
    fun j op => Operator.ofJson_eq_ok_iff, .of_ok_iff fun _ _ _ => LogicalType.ofBytes_eq_ok_iff,
    fun t => ?_, fun j t => LogicalType.ofJson_eq_ok_iff⟩
  · refine ⟨UInt8.ofNat op.operandClass.index, UInt8.ofNat op.index, op.toBytes_eq, ?_,
      UInt8.toNat_ofNat_of_lt' op.index_lt⟩
    cases op.operandClass <;> rfl
  · cases t <;> exact ⟨_, rfl, rfl⟩

end ColumnDispatch
