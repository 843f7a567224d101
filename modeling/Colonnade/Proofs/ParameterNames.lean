import Mathlib
import Colonnade.Engine
/-! # The names that imports bind

An import binds the numerals of its positions padded to four places; a library leaves as written
any run of four or more digits. The names bound are exactly the runs of ASCII digits that are not
`0000` and start with a zero only to fill four places (`parameter_names_bound_by_imports`), so
`0000` and `01234` are never bound (`unbound_parameter_names`).
-/
namespace Colonnade

open Text

/-! ## Numerals -/

/-- The ASCII digits are the code points from 48 to 57. -/
theorem isDigit_iff_toNat {c : Char} : c.isDigit = true ↔ 48 ≤ c.toNat ∧ c.toNat ≤ 57 := by
  have hval : ∀ d : Char, d.val.toNat = d.toNat := fun _ => rfl
  have h0 : '0'.toNat = 48 := rfl
  have h9 : '9'.toNat = 57 := rfl
  simp only [Char.isDigit, Bool.and_eq_true, decide_eq_true_eq, ge_iff_le,
    UInt32.le_iff_toNat_le, hval, h0, h9]

theorem digitChar_of_isDigit {c : Char} (h : c.isDigit = true) :
    (c.toNat - 48).digitChar = c := by
  have hc := isDigit_iff_toNat.1 h
  apply Char.toNat_inj.mp
  rw [Nat.toNat_digitChar_of_lt_ten (by omega)]
  omega

theorem not_mem_toDigits {c : Char} (hc : c.isDigit = false) (k : Nat) : c ∉ Nat.toDigits 10 k :=
  fun h => by rw [Nat.isDigit_of_mem_toDigits (by decide) (by decide) h] at hc; cases hc

/-- A positive number's numeral does not start with a zero. -/
theorem head_toDigits_ne_zero : ∀ m : Nat, 0 < m → (Nat.toDigits 10 m).head? ≠ some '0' := by
  intro m
  induction m using Nat.strong_induction_on with
  | _ m ih =>
    intro hm
    by_cases hlt : m < 10
    · rw [Nat.toDigits_of_lt_base hlt]
      interval_cases m <;> decide
    · -- the numeral of `m` starts as the numeral of `m / 10`
      rw [Nat.toDigits_of_base_le (by decide) (by omega), List.head?_append]
      obtain ⟨x, xs, hx⟩ := List.exists_cons_of_ne_nil (Nat.toDigits_ne_nil (n := m / 10) (b := 10))
      have hhead := ih (m / 10) (by omega) (by omega)
      rw [hx] at hhead ⊢
      simpa using hhead

/-- Digits written after a positive numeral give the numeral of the value read on from it. -/
theorem toDigits_append_digits : ∀ (cs : List Char) (acc : Nat), 0 < acc →
    (∀ c ∈ cs, c.isDigit = true) →
    Nat.toDigits 10 acc ++ cs = Nat.toDigits 10 (Nat.ofDigitChars 10 cs acc)
  | [], _, _, _ => by rw [List.append_nil, Nat.ofDigitChars_nil]
  | c :: cs, acc, hacc, hdig => by
    have hc := isDigit_iff_toNat.1 (hdig c List.mem_cons_self)
    have hnext := Nat.toDigits_append_toDigits (b := 10) (n := acc) (d := c.toNat - 48)
      (by decide) hacc (by omega)
    rw [Nat.toDigits_of_lt_base (n := c.toNat - 48) (by omega),
      digitChar_of_isDigit (hdig c List.mem_cons_self)] at hnext
    have h0 : '0'.toNat = 48 := rfl
    have hsplit : Nat.toDigits 10 acc ++ c :: cs = (Nat.toDigits 10 acc ++ [c]) ++ cs := by simp
    rw [hsplit, hnext, Nat.ofDigitChars_cons, h0,
      toDigits_append_digits cs _ (by omega) (fun c' hc' => hdig c' (List.mem_cons_of_mem _ hc'))]

/-- Digits that do not start with a zero are the numeral of their value. -/
theorem toDigits_ofDigitChars {d : Char} {cs : List Char} (hd : d ≠ '0')
    (hdig : ∀ c ∈ d :: cs, c.isDigit = true) :
    Nat.toDigits 10 (Nat.ofDigitChars 10 (d :: cs) 0) = d :: cs := by
  have hdigit := isDigit_iff_toNat.1 (hdig d List.mem_cons_self)
  have hpos : 0 < d.toNat - 48 := by
    have : d.toNat ≠ 48 := fun h => hd (Char.toNat_inj.mp h)
    omega
  have h0 : '0'.toNat = 48 := rfl
  rw [Nat.ofDigitChars_cons, h0, Nat.mul_zero, Nat.zero_add,
    ← toDigits_append_digits cs _ hpos (fun c hc => hdig c (List.mem_cons_of_mem _ hc)),
    Nat.toDigits_of_lt_base (by omega), digitChar_of_isDigit (hdig d List.mem_cons_self),
    List.singleton_append]

theorem isNumeral_toString (k : Nat) : isNumeral (toString k) = true := by
  have hdec : ∀ c ∈ Nat.toDigits 10 k, isDecimalDigit c = true := fun c hc =>
    isDecimalDigit_of_isDigit c (Nat.isDigit_of_mem_toDigits (by decide) (by decide) hc)
  have hsign : ∀ r, Nat.toDigits 10 k ≠ '-' :: r := fun r h =>
    not_mem_toDigits (by decide) k (h ▸ List.mem_cons_self)
  rw [isNumeral, Nat.toString_eq_ofList_toDigits, String.toList_ofList, isNumeralChars]
  -- no minus sign comes first, so the whole numeral is digits
  simp only [List.dropWhile_eq_nil_iff.2 hdec, List.takeWhile_eq_self_iff.2 hdec]
  · simp
  · exact hsign

theorem toString_inj {i k : Nat} (h : toString i = toString k) : i = k :=
  Nat.repr_inj.1 (by simpa [Nat.toString_eq_repr] using h)

/-! ## Parameter names -/

theorem toList_parameterName (m : Nat) :
    (parameterName m).toList =
      List.replicate (4 - (Nat.toDigits 10 m).length) '0' ++ Nat.toDigits 10 m := by
  have hsign : ¬ (m : Int) < 0 := by omega
  simp [parameterName, hsign]

/-- The name of a position from one has four digits at least, is not all zeros, and starts with a
zero only when the zeros fill it to four places. -/
theorem parameterName_padded {m : Nat} (hm : 0 < m) :
    4 ≤ (parameterName m).toList.length ∧ (∀ c ∈ (parameterName m).toList, c.isDigit = true) ∧
      (parameterName m).toList ≠ ['0', '0', '0', '0'] ∧
      ((parameterName m).toList.head? = some '0' → (parameterName m).toList.length = 4) := by
  rw [toList_parameterName]
  have hdigits : ∀ c ∈ Nat.toDigits 10 m, c.isDigit = true := fun c hc =>
    Nat.isDigit_of_mem_toDigits (by decide) (by decide) hc
  refine ⟨?_, ?_, ?_, ?_⟩
  · simp only [List.length_append, List.length_replicate]
    omega
  · intro c hc
    rcases List.mem_append.1 hc with hz | hd
    · rw [(List.mem_replicate.1 hz).2]
      decide
    · exact hdigits c hd
  · -- all zeros would be the numeral of zero
    intro hzeros
    have hall : ∀ c ∈ Nat.toDigits 10 m, c = '0' := fun c hc => by
      have hmem : c ∈ ['0', '0', '0', '0'] := hzeros ▸ List.mem_append_right _ hc
      simpa using hmem
    have hval := Nat.ofDigitChars_ten_toDigits (n := m)
    rw [List.eq_replicate_iff.2 ⟨rfl, hall⟩, Nat.ofDigitChars_replicate_zero, Nat.mul_zero] at hval
    omega
  · intro hhead
    by_cases hlen : 4 ≤ (Nat.toDigits 10 m).length
    · rw [show 4 - (Nat.toDigits 10 m).length = 0 by omega, List.replicate_zero,
        List.nil_append] at hhead
      exact absurd hhead (head_toDigits_ne_zero m hm)
    · simp only [List.length_append, List.length_replicate]
      omega

/-- Digits as a parameter's name is written are the name of a position from one. -/
theorem exists_parameterName {cs : List Char} (hlen : 4 ≤ cs.length)
    (hdig : ∀ c ∈ cs, c.isDigit = true) (hzeros : cs ≠ ['0', '0', '0', '0'])
    (hhead : cs.head? = some '0' → cs.length = 4) :
    ∃ m : Nat, 0 < m ∧ (parameterName m).toList = cs := by
  -- the zeros in front, and the numeral after them
  have hsplit := List.takeWhile_append_dropWhile (p := fun c => c == '0') (l := cs)
  have hzero : ∀ c ∈ cs.takeWhile (fun c => c == '0'), c = '0' := fun c hc => by
    simpa using List.mem_takeWhile_imp hc
  have hrest : ∀ c ∈ cs.dropWhile (fun c => c == '0'), c.isDigit = true := fun c hc =>
    hdig c ((List.dropWhile_suffix _).subset hc)
  have hstart : ∀ d us, cs.dropWhile (fun c => c == '0') = d :: us → d ≠ '0' := by
    intro d us hu
    have hnot := List.head_dropWhile_not (fun c => c == '0') (l := cs) (by simp [hu])
    simpa [hu] using hnot
  rw [List.eq_replicate_iff.2 ⟨rfl, hzero⟩] at hsplit
  generalize (cs.takeWhile (fun c => c == '0')).length = t at hsplit
  generalize cs.dropWhile (fun c => c == '0') = u at hsplit hrest hstart
  subst hsplit
  cases u with
  | nil =>
    -- only zeros: four of them, which is no name
    simp only [List.append_nil, List.length_replicate] at hlen hhead hzeros
    obtain ⟨k, rfl⟩ : ∃ k, t = k + 1 := ⟨t - 1, by omega⟩
    have h3 : k = 3 := by
      have h4 : k + 1 = 4 := hhead (by simp [List.replicate_succ])
      omega
    subst h3
    exact absurd rfl hzeros
  | cons d us =>
    have hd := hstart d us rfl
    have hnum := toDigits_ofDigitChars hd hrest
    refine ⟨Nat.ofDigitChars 10 (d :: us) 0, ?_, ?_⟩
    · -- the numeral of zero is a lone zero
      apply Nat.pos_of_ne_zero
      intro hz
      rw [hz] at hnum
      exact hd (List.head_eq_of_cons_eq hnum.symm)
    · rw [toList_parameterName, hnum]
      congr 2
      simp only [List.length_append, List.length_replicate] at hlen hhead
      cases t with
      | zero => omega
      | succ k =>
        have h4 := hhead (by simp [List.replicate_succ])
        omega

/-! ## Recognized names -/

theorem toNat_lt_of_isNameChar {c : Char} (h : isNameChar c = true) : c.toNat < 128 := by
  have hval : ∀ d : Char, d.val.toNat = d.toNat := fun _ => rfl
  simp only [isNameChar, Char.isAlphanum, Char.isAlpha, Char.isUpper, Char.isLower, Char.isDigit,
    Bool.or_eq_true, Bool.and_eq_true, decide_eq_true_eq, beq_iff_eq, ge_iff_le,
    UInt32.le_iff_toNat_le, hval] at h
  have hA : 'A'.toNat = 65 := rfl
  have hZ : 'Z'.toNat = 90 := rfl
  have ha : 'a'.toNat = 97 := rfl
  have hz : 'z'.toNat = 122 := rfl
  have h0 : '0'.toNat = 48 := rfl
  have h9 : '9'.toNat = 57 := rfl
  rcases h with ((h | h) | h) | rfl
  · rw [hZ] at h; omega
  · rw [hz] at h; omega
  · rw [h9] at h; omega
  · decide

/-- Among name characters, the decimal digits are the ASCII ones. -/
theorem isDigit_of_isDecimalDigit {c : Char} (hname : isNameChar c = true)
    (h : isDecimalDigit c = true) : c.isDigit = true := by
  have hascii := toNat_lt_of_isNameChar hname
  -- past the ASCII digits, every range of decimal digits starts beyond ASCII
  have hfar : ∀ r ∈ digitRanges.tail, 1632 ≤ r.1 := by decide
  have hrest : inRanges digitRanges.tail c.toNat = false := by
    simp only [inRanges, List.any_eq_false, Bool.and_eq_true, decide_eq_true_eq, not_and]
    intro r hr hle
    have := hfar r hr
    omega
  have hsplit : digitRanges = (0x30, 0x39) :: digitRanges.tail := rfl
  rw [isDecimalDigit, hsplit, inRanges_cons, hrest, Bool.or_false] at h
  simp only [Bool.and_eq_true, decide_eq_true_eq] at h
  exact isDigit_iff_toNat.2 (by omega)

/-- Among names, the parameter names are the runs of four or more ASCII digits. -/
theorem isParameterName_iff {s : String} (hname : ∀ c ∈ s.toList, isNameChar c = true) :
    isParameterName s = true ↔ 4 ≤ s.toList.length ∧ ∀ c ∈ s.toList, c.isDigit = true := by
  rw [isParameterName, String.length_toList.symm, Bool.and_eq_true, decide_eq_true_eq,
    List.all_eq_true]
  constructor
  · rintro ⟨hlen, hdec⟩
    exact ⟨hlen, fun c hc => isDigit_of_isDecimalDigit (hname c hc) (hdec c hc)⟩
  · rintro ⟨hlen, hdig⟩
    exact ⟨hlen, fun c hc => isDecimalDigit_of_isDigit c (hdig c hc)⟩

/-! ## The names an import binds -/

theorem Ledger.contains_insert {α : Type} (l : Ledger α) (k j : String) (v : α) :
    (l.insert k v).contains j = true ↔ j = k ∨ l.contains j = true := by
  by_cases h : j = k
  · subst h
    simp [Ledger.contains]
  · simp [Ledger.contains, Ledger.get?_insert_of_ne _ _ h, h]

theorem Ledger.contains_foldl_insert {α : Type} (j : String) :
    ∀ (es : List (String × α)) (l : Ledger α),
      (es.foldl (fun l e => l.insert e.1 e.2) l).contains j = true ↔
        l.contains j = true ∨ j ∈ es.map Prod.fst
  | [], l => by simp
  | e :: es, l => by
    rw [List.foldl_cons, Ledger.contains_foldl_insert j es, Ledger.contains_insert, List.map_cons,
      List.mem_cons, or_assoc]
    exact or_left_comm

theorem Ledger.contains_ofList {α : Type} (es : List (String × α)) (j : String) :
    (Ledger.ofList es).contains j = true ↔ j ∈ es.map Prod.fst := by
  rw [Ledger.ofList, Ledger.contains_foldl_insert]
  simp [Ledger.contains]

/-- An import binds the names of the positions of its arguments, from one. -/
theorem contains_importParameters (args : List String) (s : String) :
    (importParameters args).contains s = true ↔
      ∃ i : Nat, 1 ≤ i ∧ i ≤ args.length ∧ parameterName i = s := by
  rw [importParameters, Ledger.contains_ofList, List.map_map]
  constructor
  · rintro h
    obtain ⟨⟨a, i⟩, hmem, hi⟩ := List.mem_map.1 h
    obtain ⟨h1, h2, -⟩ := List.mem_zipIdx hmem
    exact ⟨i, h1, by omega, hi⟩
  · rintro ⟨i, h1, h2, rfl⟩
    refine List.mem_map.2 ⟨(args[i - 1], i), ?_, rfl⟩
    exact List.mem_zipIdx_iff_le_and_getElem?_sub.2 ⟨h1, by simp⟩

/-- The names an import can bind are the names of the positions from one. -/
theorem bound_iff_parameterName (s : String) :
    (∃ args, (importParameters args).contains s = true) ↔
      ∃ n : Int, 1 ≤ n ∧ parameterName n = s := by
  constructor
  · rintro ⟨args, hargs⟩
    obtain ⟨i, h1, -, hi⟩ := (contains_importParameters args s).1 hargs
    exact ⟨i, by omega, hi⟩
  · -- as many arguments as the position asks for
    rintro ⟨n, hn, hs⟩
    refine ⟨List.replicate n.toNat "", (contains_importParameters _ s).2 ⟨n.toNat, ?_, ?_, ?_⟩⟩
    · omega
    · simp
    · rw [Int.toNat_of_nonneg (by omega)]
      exact hs

/-- A name is bound by some import exactly when it is a parameter name other than `0000` with no
zero in front past four places. The recognizer takes more: `0000`, and `01234` and the like, pass
it, but no import binds them. -/
theorem parameter_names_bound_by_imports (s : String)
    (hname : ∀ c ∈ s.toList, isNameChar c = true) :
    ((∃ args, (importParameters args).contains s = true) ↔
        ∃ n : Int, 1 ≤ n ∧ parameterName n = s) ∧
      ((∃ n : Int, 1 ≤ n ∧ parameterName n = s) ↔
        isParameterName s = true ∧ s ≠ "0000" ∧ (s.toList.head? = some '0' → s.length = 4)) := by
  have hzeros : "0000".toList = ['0', '0', '0', '0'] := rfl
  refine ⟨bound_iff_parameterName s, ?_⟩
  rw [isParameterName_iff hname, ← String.length_toList, Ne, ← String.toList_inj, hzeros]
  constructor
  · rintro ⟨n, hn, rfl⟩
    -- a position from one is a natural number
    lift n to Nat using (by omega)
    obtain ⟨hlen, hdig, hne, hhead⟩ := parameterName_padded (m := n) (by omega)
    exact ⟨⟨hlen, hdig⟩, hne, hhead⟩
  · rintro ⟨⟨hlen, hdig⟩, hne, hhead⟩
    obtain ⟨m, hm, hs⟩ := exists_parameterName hlen hdig hne hhead
    exact ⟨m, by omega, String.toList_inj.1 hs⟩

theorem parameter_names_bound_by_imports_sample :
    (∀ c ∈ "0042".toList, isNameChar c = true) ∧
      ∃ args, (importParameters args).contains "0042" = true := by
  have hname : ∀ c ∈ "0042".toList, isNameChar c = true := List.all_eq_true.1 (by decide)
  obtain ⟨himport, hpadded⟩ := parameter_names_bound_by_imports "0042" hname
  exact ⟨hname, himport.2 (hpadded.2 ⟨by decide +kernel, by decide, fun _ => by decide⟩)⟩

/-- `0000` and `01234` pass as parameter names, but no import binds either. -/
theorem unbound_parameter_names :
    isParameterName "0000" = true ∧ isParameterName "01234" = true ∧
      ∀ args, (importParameters args).contains "0000" = false ∧
        (importParameters args).contains "01234" = false := by
  refine ⟨by decide, by decide, fun args => ⟨?_, ?_⟩⟩
  · rw [Bool.eq_false_iff]
    intro hbound
    obtain ⟨i, hi, -, hs⟩ := (contains_importParameters args _).1 hbound
    exact (parameterName_padded (m := i) (by omega)).2.2.1 (by rw [hs]; rfl)
  · rw [Bool.eq_false_iff]
    intro hbound
    obtain ⟨i, hi, -, hs⟩ := (contains_importParameters args _).1 hbound
    have hfour := (parameterName_padded (m := i) (by omega)).2.2.2
    rw [hs] at hfour
    exact absurd (hfour rfl) (by decide)

end Colonnade
