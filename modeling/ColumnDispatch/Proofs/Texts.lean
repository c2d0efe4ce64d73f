import ColumnDispatch.Signature

/-! What can be read back from a text. A part that lacks a letter ends where that letter first
stands, so words can be told from the text that joins them, and the parts of a rendered range or
signature from the whole. Main statements: a range, a list of ranges and a signature of each class
are determined by their texts, whatever the bounds. -/

namespace ColumnDispatch

/-! ### Joined words -/

section Words

variable {before after : List Char} {mark : Char}

/-- A part that lacks a letter ends where the letter first stands. -/
theorem append_cons_injective {part part' rest rest' : List Char} (hpart : mark ∉ part)
    (hpart' : mark ∉ part') (h : part ++ mark :: rest = part' ++ mark :: rest') :
    part = part' ∧ rest = rest' := by
  induction part generalizing part' with
  | nil =>
    cases part' with
    | nil => simpa using h
    | cons c part' =>
      obtain ⟨rfl, -⟩ := List.cons.inj h
      simp at hpart'
  | cons c part ih =>
    cases part' with
    | nil =>
      obtain ⟨rfl, -⟩ := List.cons.inj h
      simp at hpart
    | cons c' part' =>
      obtain ⟨rfl, hrest⟩ := List.cons.inj h
      simp only [List.mem_cons, not_or] at hpart hpart'
      obtain ⟨rfl, rfl⟩ := ih hpart.2 hpart'.2 hrest
      exact ⟨rfl, rfl⟩

/-- A part that lacks a letter begins where the letter last stands. -/
theorem append_cons_injective_of_last {part part' rest rest' : List Char} (hrest : mark ∉ rest)
    (hrest' : mark ∉ rest') (h : part ++ mark :: rest = part' ++ mark :: rest') :
    part = part' ∧ rest = rest' := by
  have hreverse :
      rest.reverse ++ mark :: part.reverse = rest'.reverse ++ mark :: part'.reverse := by
    simpa using congrArg List.reverse h
  obtain ⟨hrests, hparts⟩ :=
    append_cons_injective (by simpa using hrest) (by simpa using hrest') hreverse
  exact ⟨List.reverse_inj.1 hparts, List.reverse_inj.1 hrests⟩

theorem intercalate_cons_eq (sep word : List Char) (rest : List (List Char)) :
    sep.intercalate (word :: rest) = word ++ rest.flatMap (sep ++ ·) := by
  induction rest generalizing word with
  | nil => simp
  | cons next rest ih => simp [List.intercalate_cons_cons, ih next]

/-- A word that lacks a letter of the separator ends where the first separator begins. -/
theorem eq_of_append_separated (hbefore : mark ∉ before) {word word' : List Char}
    {rest rest' : List (List Char)} (hword : mark ∉ word) (hword' : mark ∉ word')
    (hrest : ∀ w ∈ rest, mark ∉ w) (hrest' : ∀ w ∈ rest', mark ∉ w)
    (h : word ++ rest.flatMap (before ++ mark :: after ++ ·) =
      word' ++ rest'.flatMap (before ++ mark :: after ++ ·)) : word = word' ∧ rest = rest' := by
  induction rest generalizing word word' rest' with
  | nil =>
    cases rest' with
    | nil => simpa using h
    | cons next' rest' =>
      rw [List.flatMap_nil, List.append_nil] at h
      simp [h] at hword
  | cons next rest ih =>
    cases rest' with
    | nil =>
      rw [List.flatMap_nil, List.append_nil] at h
      simp [← h] at hword'
    | cons next' rest' =>
      have hmarks : (word ++ before) ++
          mark :: (after ++ (next ++ rest.flatMap (before ++ mark :: after ++ ·))) =
          (word' ++ before) ++
            mark :: (after ++ (next' ++ rest'.flatMap (before ++ mark :: after ++ ·))) := by
        simpa using h
      have hfirst : mark ∉ word ++ before := by simp [hword, hbefore]
      have hfirst' : mark ∉ word' ++ before := by simp [hword', hbefore]
      obtain ⟨hwords, htexts⟩ := append_cons_injective hfirst hfirst' hmarks
      obtain ⟨hnext, hlater⟩ := ih (hrest next (by simp)) (hrest' next' (by simp))
        (fun w hw => hrest w (by simp [hw])) (fun w hw => hrest' w (by simp [hw]))
        (List.append_cancel_left htexts)
      exact ⟨List.append_cancel_right hwords, by rw [hnext, hlater]⟩

/-- Words that lack a letter of the separator are determined by the text that joins them. -/
theorem intercalate_injective (hbefore : mark ∉ before) {words words' : List (List Char)}
    (hwords : ∀ w ∈ words, w ≠ [] ∧ mark ∉ w) (hwords' : ∀ w ∈ words', w ≠ [] ∧ mark ∉ w)
    (h : (before ++ mark :: after).intercalate words =
      (before ++ mark :: after).intercalate words') : words = words' := by
  cases words with
  | nil =>
    cases words' with
    | nil => rfl
    | cons word' rest' =>
      have hne := (hwords' word' (by simp)).1
      rw [intercalate_cons_eq, List.intercalate_nil] at h
      exact absurd (List.append_eq_nil_iff.1 h.symm).1 hne
  | cons word rest =>
    cases words' with
    | nil =>
      have hne := (hwords word (by simp)).1
      rw [intercalate_cons_eq, List.intercalate_nil] at h
      exact absurd (List.append_eq_nil_iff.1 h).1 hne
    | cons word' rest' =>
      rw [intercalate_cons_eq, intercalate_cons_eq] at h
      obtain ⟨hword, hrest⟩ := eq_of_append_separated hbefore (hwords word (by simp)).2
        (hwords' word' (by simp)).2 (fun w hw => (hwords w (by simp [hw])).2)
        (fun w hw => (hwords' w (by simp [hw])).2) h
      rw [hword, hrest]

section Separated

variable {sep part part' rest rest' : String} (before mark)
  (hsep : sep.toList = before ++ mark :: after)

include hsep

theorem toList_separated (part rest : String) : (part ++ sep ++ rest).toList =
    (part.toList ++ before) ++ mark :: (after ++ rest.toList) := by
  simp [String.toList_append, hsep]

/-- Two parts are told apart by a separator with a letter that the first part lacks. -/
theorem append_injective_of_first (hbefore : mark ∉ before) (hpart : mark ∉ part.toList)
    (hpart' : mark ∉ part'.toList) (h : part ++ sep ++ rest = part' ++ sep ++ rest') :
    part = part' ∧ rest = rest' := by
  have hlist := congrArg String.toList h
  rw [toList_separated before mark hsep, toList_separated before mark hsep] at hlist
  obtain ⟨hparts, hrests⟩ :=
    append_cons_injective (by simp [hpart, hbefore]) (by simp [hpart', hbefore]) hlist
  exact ⟨String.toList_inj.1 (List.append_cancel_right hparts),
    String.toList_inj.1 (List.append_cancel_left hrests)⟩

/-- Two parts are told apart by a separator with a letter that the second part lacks. -/
theorem append_injective_of_last (hafter : mark ∉ after) (hrest : mark ∉ rest.toList)
    (hrest' : mark ∉ rest'.toList) (h : part ++ sep ++ rest = part' ++ sep ++ rest') :
    part = part' ∧ rest = rest' := by
  have hlist := congrArg String.toList h
  rw [toList_separated before mark hsep, toList_separated before mark hsep] at hlist
  obtain ⟨hparts, hrests⟩ :=
    append_cons_injective_of_last (by simp [hrest, hafter]) (by simp [hrest', hafter]) hlist
  exact ⟨String.toList_inj.1 (List.append_cancel_right hparts),
    String.toList_inj.1 (List.append_cancel_left hrests)⟩

end Separated

end Words

/-! ### Numerals -/

theorem toString_nat_injective {m n : Nat} (h : toString m = toString n) : m = n := by
  have hdigits : Nat.toDigits 10 m = Nat.toDigits 10 n := by
    rw [Nat.toString_eq_ofList_toDigits, Nat.toString_eq_ofList_toDigits] at h
    exact String.ofList_injective h
  rw [← Nat.ofDigitChars_ten_toDigits (n := m), hdigits, Nat.ofDigitChars_ten_toDigits]

theorem isDigit_of_mem_toString {n : Nat} {c : Char} (h : c ∈ (toString n).toList) :
    c.isDigit := by
  rw [Nat.toString_eq_ofList_toDigits, String.toList_ofList] at h
  exact Nat.isDigit_of_mem_toDigits (by decide) (by decide) h

theorem not_mem_toString {n : Nat} {c : Char} (hc : c.isDigit = false) :
    c ∉ (toString n).toList := fun h => by
  simp [isDigit_of_mem_toString h] at hc

theorem toString_nat_ne_nil (n : Nat) : (toString n).toList ≠ [] := by
  rw [Nat.toString_eq_ofList_toDigits, String.toList_ofList]
  exact Nat.toDigits_ne_nil

/-! ### Ranges -/

namespace Arity

variable {a b : Arity}

/-- The three ways in which a range is written. -/
theorem toList_toString_cases (a : Arity) :
    (a.max = none ∧ (toString a).toList = "at least ".toList ++ (toString a.min).toList) ∨
    (a.max = some a.min ∧ (toString a).toList = "exactly ".toList ++ (toString a.min).toList) ∨
    ∃ m, a.max = some m ∧
      (toString a).toList = (toString a.min).toList ++ " to ".toList ++ (toString m).toList := by
  have htext : toString a = a.describe := rfl
  rw [htext, describe]
  cases hmax : a.max with
  | none => exact .inl ⟨rfl, String.toList_append⟩
  | some m =>
    by_cases hm : m = a.min
    · simp only [hm, if_true]
      exact .inr (.inl ⟨trivial, String.toList_append⟩)
    · refine .inr (.inr ⟨m, rfl, ?_⟩)
      simp only [hm, if_false, String.toList_append]
      rfl

theorem toString_ne_nil (a : Arity) : (toString a).toList ≠ [] := by
  rcases toList_toString_cases a with ⟨-, h⟩ | ⟨-, h⟩ | ⟨m, -, h⟩ <;> simp [h]

/-- The letters of a range are those of its numerals and of the words between them. -/
theorem not_mem_toString {c : Char} (hdigit : c.isDigit = false)
    (hwords : c ∉ "at least exactly to ".toList) (a : Arity) : c ∉ (toString a).toList := by
  have hnumeral (n : Nat) : c ∉ (toString n).toList := ColumnDispatch.not_mem_toString hdigit
  have hword {word : String} (h : word.toList.all (· ∈ "at least exactly to ".toList)) :
      c ∉ word.toList := fun hc => hwords (of_decide_eq_true (List.all_eq_true.1 h c hc))
  rcases toList_toString_cases a with ⟨-, h⟩ | ⟨-, h⟩ | ⟨m, -, h⟩
  · rw [h, List.mem_append]
    exact not_or.2 ⟨hword (by decide), hnumeral _⟩
  · rw [h, List.mem_append]
    exact not_or.2 ⟨hword (by decide), hnumeral _⟩
  · rw [h, List.mem_append, List.mem_append]
    exact not_or.2 ⟨not_or.2 ⟨hnumeral _, hword (by decide)⟩, hnumeral _⟩

/-- A numeral begins with a digit, so with neither of the words for a range. -/
theorem numeral_append_ne (n : Nat) (rest : List Char) {word : List Char} {c : Char}
    (hc : c.isDigit = false) : (toString n).toList ++ rest ≠ c :: word := by
  intro h
  obtain ⟨d, digits, hd⟩ := List.exists_cons_of_ne_nil (toString_nat_ne_nil n)
  rw [hd, List.cons_append] at h
  have hdigit : d.isDigit := isDigit_of_mem_toString (hd ▸ List.mem_cons_self)
  rw [(List.cons.inj h).1, hc] at hdigit
  exact Bool.noConfusion hdigit

/-- Ranges are the same if they are written the same. -/
theorem toString_injective (h : toString a = toString b) : a = b := by
  have htext : (toString a).toList = (toString b).toList := congrArg String.toList h
  have hnumeral {n m : Nat} (h : (toString n).toList = (toString m).toList) : n = m :=
    toString_nat_injective (String.toList_inj.1 h)
  have hspace (n : Nat) : ' ' ∉ (toString n).toList := ColumnDispatch.not_mem_toString rfl
  rcases toList_toString_cases a with ⟨hmax, ha⟩ | ⟨hmax, ha⟩ | ⟨m, hmax, ha⟩ <;>
    rcases toList_toString_cases b with ⟨hmax', hb⟩ | ⟨hmax', hb⟩ | ⟨m', hmax', hb⟩ <;>
    rw [ha, hb] at htext
  · exact Arity.ext (hnumeral (List.append_cancel_left htext)) (hmax.trans hmax'.symm)
  · exact absurd (List.cons.inj htext).1 (by decide)
  · rw [List.append_assoc] at htext
    exact absurd htext.symm (numeral_append_ne _ _ rfl)
  · exact absurd (List.cons.inj htext).1 (by decide)
  · have hmin := hnumeral (List.append_cancel_left htext)
    exact Arity.ext hmin (by rw [hmax, hmax', hmin])
  · rw [List.append_assoc] at htext
    exact absurd htext.symm (numeral_append_ne _ _ rfl)
  · rw [List.append_assoc] at htext
    exact absurd htext (numeral_append_ne _ _ rfl)
  · rw [List.append_assoc] at htext
    exact absurd htext (numeral_append_ne _ _ rfl)
  · rw [List.append_assoc, List.append_assoc] at htext
    obtain ⟨hmin, hrest⟩ := append_cons_injective (hspace a.min) (hspace b.min) htext
    have hgreatest : m = m' := hnumeral (List.append_cancel_left (by exact hrest))
    exact Arity.ext (hnumeral hmin) (by rw [hmax, hmax', hgreatest])

end Arity

/-- A list of ranges is determined by the text that lists them. -/
theorem ranges_injective {ranges ranges' : List Arity}
    (h : " or ".intercalate (ranges.map toString) = " or ".intercalate (ranges'.map toString)) :
    ranges = ranges' := by
  have hwords (ranges : List Arity) :
      ∀ w ∈ (ranges.map toString).map String.toList, w ≠ [] ∧ 'r' ∉ w := by
    simp only [List.map_map, List.forall_mem_map]
    exact fun a _ => ⟨a.toString_ne_nil, Arity.not_mem_toString rfl (by decide) a⟩
  have htext := congrArg String.toList h
  rw [String.toList_intercalate, String.toList_intercalate] at htext
  have hseparator : " or ".toList = [' ', 'o'] ++ 'r' :: [' '] := rfl
  have hmark : 'r' ∉ [' ', 'o'] := by decide
  rw [hseparator] at htext
  have hlists := intercalate_injective hmark (hwords ranges) (hwords ranges') htext
  have hstrings := (List.map_inj_right fun _ _ => String.toList_inj.1).1 hlists
  exact (List.map_inj_right fun _ _ => Arity.toString_injective).1 hstrings

/-! ### Signatures -/

/-- The name of a type is made of capital letters and digits. -/
theorem LogicalType.not_mem_name {c : Char} (hc : (c.isUpper || c.isDigit) = false)
    (t : LogicalType) : c ∉ t.name.toList := fun hmem => by
  have hnames : all.all fun t => t.name.toList.all fun c => c.isUpper || c.isDigit := by decide
  have hletter := List.all_eq_true.1 (List.all_eq_true.1 hnames t t.mem_all) c hmem
  simp [hletter] at hc

theorem UnarySignature.toString_injective {s t : UnarySignature} (h : toString s = toString t) :
    s = t := by
  have htext (s : UnarySignature) : toString s = "(" ++ s.operand.name ++ ")" := rfl
  rw [htext, htext, String.append_left_inj, String.append_right_inj] at h
  exact UnarySignature.ext (LogicalType.name_injective h)

theorem BinarySignature.toString_injective {s t : BinarySignature} (h : toString s = toString t) :
    s = t := by
  have htext (s : BinarySignature) :
      toString s = "(" ++ s.left.name ++ ", " ++ s.right.name ++ ")" := rfl
  have hcomma (s : BinarySignature) : ',' ∉ ("(" ++ s.left.name).toList := by
    simp [String.toList_append, s.left.not_mem_name (c := ',') rfl]
  rw [htext, htext, String.append_left_inj] at h
  obtain ⟨hleft, hright⟩ := append_injective_of_first [] ',' rfl List.not_mem_nil
    (hcomma s) (hcomma t) h
  rw [String.append_right_inj] at hleft
  exact BinarySignature.ext (LogicalType.name_injective hleft) (LogicalType.name_injective hright)

namespace VariadicSignature

variable {s t : VariadicSignature}

theorem toString_injective (h : toString s = toString t) : s = t := by
  have htext (s : VariadicSignature) : toString s =
      "(" ++ s.operand.name ++ ", ...) with " ++ toString s.arity ++ " arguments" := rfl
  have hcomma (s : VariadicSignature) : ',' ∉ ("(" ++ s.operand.name).toList := by
    simp [String.toList_append, s.operand.not_mem_name (c := ',') rfl]
  rw [htext, htext, String.append_left_inj] at h
  obtain ⟨hoperand, harity⟩ := append_injective_of_first [] ',' rfl List.not_mem_nil
    (hcomma s) (hcomma t) h
  rw [String.append_right_inj] at hoperand
  exact VariadicSignature.ext (LogicalType.name_injective hoperand)
    (Arity.toString_injective harity)

/-- No signature is written with a `v`, as the word between two that overlap is. -/
theorem not_mem_toString (s : VariadicSignature) : 'v' ∉ (toString s).toList := by
  have htext : toString s =
      "(" ++ s.operand.name ++ ", ...) with " ++ toString s.arity ++ " arguments" := rfl
  have hname : 'v' ∉ s.operand.name.toList := s.operand.not_mem_name rfl
  have harity : 'v' ∉ (toString s.arity).toList := Arity.not_mem_toString rfl (by decide) s.arity
  rw [htext]
  simp [String.toList_append, hname, harity]

/-- So both signatures can be told from the text of a conflict between them. -/
theorem overlaps_injective {p q : VariadicSignature}
    (h : s!"{s} overlaps {t}" = s!"{p} overlaps {q}") : s = p ∧ t = q := by
  have hparts : toString s ++ " overlaps " ++ toString t =
      toString p ++ " overlaps " ++ toString q := h
  obtain ⟨hleft, hright⟩ := append_injective_of_first [' ', 'o'] 'v' rfl (by decide)
    s.not_mem_toString p.not_mem_toString hparts
  exact ⟨toString_injective hleft, toString_injective hright⟩

end VariadicSignature

end ColumnDispatch
