import Mathlib
import Colonnade.Proofs.ParameterNames
import Colonnade.Proofs.LineBreaks
import Colonnade.Document.Json
/-! # Reading back written JSON

The compact text of a value without floats reads back as the value (`Json.parse?_render`), the
reader's fuel paid for by the text (`Json.steps_le_length`). A document reads back from the text
of every codec that keeps its promise, when a 64-bit word holds its lines
(`document_json_round_trip`).
-/
namespace Colonnade

namespace Json

/-! ## Strings -/

theorem hexValue?_hexDigit : ∀ n, n < 16 → hexValue? (hexDigit n) = some n := by decide

section Strings

variable {acc rest : List Char}

theorem readString_shortEscape {e o : Char} (h : shortEscape? e = some o) (he : e ≠ 'u') :
    readString none acc ('\\' :: e :: rest) = readString none (o :: acc) rest := by
  rw [readString.eq_4 _ _ _ _ (fun _ _ _ _ _ h' _ => he h'), h]
  rfl

theorem readString_hexEscape {a b c d : Char} {u : Nat} (h : hex4? [a, b, c, d] = some u)
    (hu : u < 0xD800) :
    readString none acc ('\\' :: 'u' :: a :: b :: c :: d :: rest) =
      readString none (Char.ofNat u :: acc) rest := by
  rw [readString.eq_3, h]
  simp only [show ¬ (0xD800 ≤ u ∧ u < 0xDC00) by omega, show ¬ (0xDC00 ≤ u ∧ u < 0xE000) by omega,
    if_false]
  rfl

theorem readString_plain {c : Char} (hq : c ≠ '"') (hb : c ≠ '\\') (hc : ¬ c.toNat < 0x20) :
    readString none acc (c :: rest) = readString none (c :: acc) rest := by
  rw [readString.eq_5 _ _ _ _ hq (fun _ _ _ _ _ h _ => hb h) (fun _ _ h _ => hb h)]
  simp [hb, hc, flushHalf]

/-- Each escape reads back as the character it stands for. -/
theorem readString_escapeChar (c : Char) :
    readString none acc (escapeChar c ++ rest) = readString none (c :: acc) rest := by
  unfold escapeChar
  split_ifs with hq hb hn hr ht hbs hf hlt
  any_goals (subst c; exact readString_shortEscape rfl (by decide))
  · -- a control character without a short escape: its code in four hex digits
    have h0 : hexValue? '0' = some 0 := rfl
    have hcode : hex4? ['0', '0', hexDigit (c.toNat / 16), hexDigit (c.toNat % 16)] =
        some c.toNat := by
      simp only [hex4?, h0, hexValue?_hexDigit (c.toNat / 16) (by omega),
        hexValue?_hexDigit (c.toNat % 16) (by omega), Option.bind_eq_bind, Option.bind_some,
        Option.pure_def]
      exact congrArg some (by omega)
    simp only [List.cons_append, List.nil_append]
    rw [readString_hexEscape hcode (by omega), Char.ofNat_toNat]
  · exact readString_plain hq hb hlt

theorem readString_escaped (cs : List Char) :
    readString none acc (cs.flatMap escapeChar ++ '"' :: rest) =
      some (String.ofList (acc.reverse ++ cs), rest) := by
  induction cs generalizing acc with
  | nil => simp [readString, flushHalf]
  | cons c cs ih =>
    rw [List.flatMap_cons, List.append_assoc, readString_escapeChar, ih, List.reverse_cons,
      List.append_assoc, List.singleton_append]

end Strings

theorem toList_quote (s : String) :
    (quote s).toList = '"' :: s.toList.flatMap escapeChar ++ ['"'] := by
  simp [quote]

/-! ## Numbers -/

/-- A text that may follow a value: empty, or starting with a comma or a closing bracket. -/
def Closes : List Char → Prop
  | [] => True
  | c :: _ => c = ',' ∨ c = ']' ∨ c = '\x7d'

theorem closes_comma (r : List Char) : Closes (',' :: r) := Or.inl rfl

theorem closes_bracket (r : List Char) : Closes (']' :: r) := Or.inr (Or.inl rfl)

theorem closes_brace (r : List Char) : Closes ('\x7d' :: r) := Or.inr (Or.inr rfl)

theorem digitsValue_eq (ds : List Char) : digitsValue ds = Nat.ofDigitChars 10 ds 0 := by
  simp only [digitsValue, Nat.ofDigitChars]
  congr 1
  funext n d
  rw [Nat.mul_comm]
  rfl

/-- What follows a value ends a numeral: no digit, no fraction and no exponent. -/
theorem Closes.ends_numeral {c : Char} {t : List Char} (h : Closes (c :: t)) :
    isAsciiDigit c = false ∧ c ≠ '.' ∧ c ≠ 'e' ∧ c ≠ 'E' := by
  rcases h with rfl | rfl | rfl <;> decide

theorem ne_of_isAsciiDigit {d c : Char} (hd : isAsciiDigit d = true) (hc : isAsciiDigit c = false) :
    d ≠ c := by
  rintro rfl
  rw [hd] at hc
  cases hc

/-- A numeral, with a minus sign in front or without, reads back as its integer. -/
theorem readNumber_numeral (neg : Bool) (m : Nat) {rest : List Char} (hrest : Closes rest) :
    readNumber ((if neg then ['-'] else []) ++ Nat.toDigits 10 m ++ rest) =
      some (.int (if neg then -(m : Int) else m), rest) := by
  have hval : digitsValue (Nat.toDigits 10 m) = m := by
    rw [digitsValue_eq, Nat.ofDigitChars_ten_toDigits]
  have hdig : ∀ c ∈ Nat.toDigits 10 m, isAsciiDigit c = true := fun c hc =>
    Nat.isDigit_of_mem_toDigits (by decide) (by decide) hc
  rcases Nat.eq_zero_or_pos m with rfl | hm
  · -- the numeral of zero is the one numeral that starts with a zero
    match rest, hrest with
    | [], _ => cases neg <;> rfl
    | _ :: _, h => rcases h with rfl | rfl | rfl <;> cases neg <;> rfl
  · obtain ⟨d, ds, hds⟩ := List.exists_cons_of_ne_nil (Nat.toDigits_ne_nil (n := m) (b := 10))
    have hd0 : d ≠ '0' := fun h => head_toDigits_ne_zero m hm (by rw [hds, h]; rfl)
    rw [hds] at hval hdig ⊢
    have hd : isAsciiDigit d = true := hdig d List.mem_cons_self
    have hdm : d ≠ '-' := ne_of_isAsciiDigit hd rfl
    have hdigs : ∀ c ∈ ds, isAsciiDigit c = true := fun c hc => hdig c (List.mem_cons_of_mem _ hc)
    match rest, hrest with
    | [], _ =>
      cases neg <;> simp [readNumber, hd0, hdm, hd, List.takeWhile_eq_self_iff.2 hdigs, hval]
    | c :: t, h =>
      obtain ⟨hcd, hcp, hce, hcE⟩ := h.ends_numeral
      cases neg <;> simp [readNumber, hd0, hdm, hd, List.takeWhile_append_of_pos hdigs, hval, hcd,
        hcp, hce, hcE]

theorem toDigits_eq_cons (m : Nat) : ∃ d ds, Nat.toDigits 10 m = d :: ds ∧ isAsciiDigit d = true := by
  obtain ⟨d, ds, hds⟩ := List.exists_cons_of_ne_nil (Nat.toDigits_ne_nil (n := m) (b := 10))
  exact ⟨d, ds, hds, Nat.isDigit_of_mem_toDigits (by decide) (by decide) (hds ▸ List.mem_cons_self)⟩

theorem toList_toString_int (n : Int) :
    (toString n).toList = (if n < 0 then ['-'] else []) ++ Nat.toDigits 10 n.natAbs := by
  cases n with
  | ofNat m => simp [toString, Int.repr]
  | negSucc m => simp [toString, Int.repr]

/-! ## Dispatch on the first character -/

theorem skipBlanks_of_isAsciiDigit {d : Char} (hd : isAsciiDigit d = true) (r : List Char) :
    skipBlanks (d :: r) = d :: r := by
  have hne : ∀ c, isAsciiDigit c = false → d ≠ c := fun _ => ne_of_isAsciiDigit hd
  simp [skipBlanks, hne ' ' rfl, hne '\t' rfl, hne '\n' rfl, hne '\r' rfl]

section Dispatch

variable (fuel : Nat)

theorem readValue_of_digit {d : Char} (hd : isAsciiDigit d = true) (r : List Char) :
    readValue (fuel + 1) (d :: r) = readNumber (d :: r) := by
  -- a digit starts none of the words, strings, arrays and objects
  have hne : ∀ c, isAsciiDigit c = false → d ≠ c := fun _ => ne_of_isAsciiDigit hd
  simp [readValue, skipBlanks_of_isAsciiDigit hd, hne 'n' rfl, hne 't' rfl, hne 'f' rfl,
    hne 'N' rfl, hne 'I' rfl, hne '-' rfl, hne '"' rfl, hne '[' rfl, hne '\x7b' rfl]

theorem readValue_of_minus {d : Char} (hd : isAsciiDigit d = true) (r : List Char) :
    readValue (fuel + 1) ('-' :: d :: r) = readNumber ('-' :: d :: r) := by
  simp [readValue, skipBlanks, ne_of_isAsciiDigit hd (c := 'I') rfl]

theorem readValue_string (r : List Char) :
    readValue (fuel + 1) ('"' :: r) = (readString none [] r).map fun p => (.str p.1, p.2) := by
  simp [readValue, skipBlanks]

theorem readValue_items {r : List Char} (hr : ∀ r', skipBlanks r ≠ ']' :: r') :
    readValue (fuel + 1) ('[' :: r) = readItems fuel [] r := by
  have hopen : skipBlanks ('[' :: r) = '[' :: r := by simp [skipBlanks]
  cases h : skipBlanks r with
  | nil => simp [readValue, hopen, h]
  | cons c r' =>
    have hc : c ≠ ']' := fun hc => hr r' (hc ▸ h)
    simp [readValue, hopen, h, hc]

theorem readValue_fields {r : List Char} (hr : ∀ r', skipBlanks r ≠ '\x7d' :: r') :
    readValue (fuel + 1) ('\x7b' :: r) = readFields fuel [] r := by
  have hopen : skipBlanks ('\x7b' :: r) = '\x7b' :: r := by simp [skipBlanks]
  cases h : skipBlanks r with
  | nil => simp [readValue, hopen, h]
  | cons c r' =>
    have hc : c ≠ '\x7d' := fun hc => hr r' (hc ▸ h)
    simp [readValue, hopen, h, hc]

theorem readValue_int (n : Int) {rest : List Char} (hrest : Closes rest) :
    readValue (fuel + 1) ((toString n).toList ++ rest) = some (.int n, rest) := by
  obtain ⟨d, ds, hds, hd⟩ := toDigits_eq_cons n.natAbs
  rw [toList_toString_int, hds]
  by_cases hneg : n < 0
  · have hread := readNumber_numeral true n.natAbs hrest
    rw [hds, show -(n.natAbs : Int) = n by omega] at hread
    simp only [hneg, ↓reduceIte, List.cons_append, List.nil_append] at hread ⊢
    rw [readValue_of_minus fuel hd, hread]
  · have hread := readNumber_numeral false n.natAbs hrest
    rw [hds, show (n.natAbs : Int) = n by omega] at hread
    simp only [hneg, Bool.false_eq_true, ↓reduceIte, List.cons_append, List.nil_append] at hread ⊢
    rw [readValue_of_digit fuel hd, hread]

end Dispatch

/-! ## Values -/

theorem allItems_eq_all (p : Json → Bool) :
    ∀ items : List Json, allItems p items = items.all (all p)
  | [] => rfl
  | j :: js => by rw [allItems, allItems_eq_all p js, List.all_cons]

theorem allFields_eq_all (p : Json → Bool) :
    ∀ fields : List (String × Json), allFields p fields = fields.all fun f => all p f.2
  | [] => rfl
  | (_, j) :: fs => by rw [allFields, allFields_eq_all p fs, List.all_cons]

mutual
/-- The nested reading steps a value needs: one for the value, one for each item or field. -/
def steps : Json → Nat
  | .arr items => stepsItems items + 1
  | .obj fields => stepsFields fields + 1
  | _ => 1

def stepsItems : List Json → Nat
  | [] => 0
  | j :: js => steps j + stepsItems js + 1

def stepsFields : List (String × Json) → Nat
  | [] => 0
  | (_, j) :: fs => steps j + stepsFields fs + 1
end

theorem steps_pos (j : Json) : 0 < steps j := by
  cases j <;> simp [steps]

/-- A text that starts a value: its first character is no blank and closes nothing. -/
def Opens : List Char → Prop
  | [] => False
  | c :: _ => c ≠ ' ' ∧ c ≠ '\t' ∧ c ≠ '\n' ∧ c ≠ '\r' ∧ c ≠ ']' ∧ c ≠ '\x7d'

namespace Opens

variable {cs : List Char}

theorem append (h : Opens cs) (r : List Char) : Opens (cs ++ r) := by
  cases cs with
  | nil => exact h.elim
  | cons c cs => exact h

theorem skipBlanks_eq (h : Opens cs) : skipBlanks cs = cs := by
  cases cs with
  | nil => exact h.elim
  | cons c cs =>
    obtain ⟨h1, h2, h3, h4, -⟩ := h
    simp [skipBlanks, h1, h2, h3, h4]

theorem ne_bracket (h : Opens cs) (r : List Char) : skipBlanks cs ≠ ']' :: r := by
  rw [h.skipBlanks_eq]
  cases cs with
  | nil => exact h.elim
  | cons c cs =>
    obtain ⟨-, -, -, -, hc, -⟩ := h
    exact fun he => hc (List.cons.inj he).1

theorem ne_brace (h : Opens cs) (r : List Char) : skipBlanks cs ≠ '\x7d' :: r := by
  rw [h.skipBlanks_eq]
  cases cs with
  | nil => exact h.elim
  | cons c cs =>
    obtain ⟨-, -, -, -, -, hc⟩ := h
    exact fun he => hc (List.cons.inj he).1

end Opens

theorem opens_of_isAsciiDigit {d : Char} (hd : isAsciiDigit d = true) (r : List Char) :
    Opens (d :: r) :=
  ⟨ne_of_isAsciiDigit hd rfl, ne_of_isAsciiDigit hd rfl, ne_of_isAsciiDigit hd rfl,
    ne_of_isAsciiDigit hd rfl, ne_of_isAsciiDigit hd rfl, ne_of_isAsciiDigit hd rfl⟩

theorem toList_render_arr (items : List Json) :
    (render (.arr items)).toList = '[' :: (renderItems items).toList ++ [']'] := by
  simp [render]

theorem toList_render_obj (fields : List (String × Json)) :
    (render (.obj fields)).toList = '\x7b' :: (renderFields fields).toList ++ ['\x7d'] := by
  simp [render]

theorem opens_render : ∀ j : Json, j.all (fun v => !v.isFloat) = true → Opens (render j).toList
  | .null, _ => by simp [render, Opens]
  | .bool b, _ => by cases b <;> simp [render, Opens]
  | .int n, _ => by
    obtain ⟨d, ds, hds, hd⟩ := toDigits_eq_cons n.natAbs
    rw [render, toList_toString_int, hds]
    split
    · simp [Opens]
    · exact opens_of_isAsciiDigit hd ds
  | .float _, h => by simp [all, isFloat] at h
  | .str s, _ => by simp [render, toList_quote, Opens]
  | .arr items, _ => by simp [toList_render_arr, Opens]
  | .obj fields, _ => by simp [toList_render_obj, Opens]

theorem toList_comma : ",".toList = [','] := rfl

theorem toList_field (k : String) (v : Json) :
    (quote k ++ ":" ++ render v).toList =
      '"' :: k.toList.flatMap escapeChar ++ '"' :: ':' :: (render v).toList := by
  simp [toList_quote]

theorem toList_renderItems_cons (x : Json) (xs : List Json) :
    ∃ t, (renderItems (x :: xs)).toList = (render x).toList ++ t := by
  cases xs with
  | nil => exact ⟨[], by simp [renderItems]⟩
  | cons y ys =>
    refine ⟨",".toList ++ (renderItems (y :: ys)).toList, ?_⟩
    rw [renderItems.eq_3 _ _ (List.cons_ne_nil y ys), String.toList_append, String.toList_append,
      List.append_assoc]

theorem opens_renderFields_cons (k : String) (v : Json) (fs : List (String × Json)) :
    Opens (renderFields ((k, v) :: fs)).toList := by
  cases fs with
  | nil => simp [renderFields, toList_quote, Opens]
  | cons f fs => simp [renderFields.eq_3 _ _ _ (List.cons_ne_nil f fs), toList_quote, Opens]

mutual
/-- The text of a value without floats reads back as the value, given the steps it needs. -/
theorem readValue_render : ∀ (j : Json) (fuel : Nat) (rest : List Char),
    j.all (fun v => !v.isFloat) = true →
    steps j ≤ fuel → Closes rest → readValue fuel ((render j).toList ++ rest) = some (j, rest)
  | .float _, _, _, h, _, _ => by simp [all, isFloat] at h
  -- every value takes a step, so no fuel reads nothing
  | j, 0, _, _, hs, _ => absurd hs (by have := steps_pos j; omega)
  | .null, fuel + 1, rest, _, _, _ => by simp [render, readValue, skipBlanks]
  | .bool b, fuel + 1, rest, _, _, _ => by cases b <;> simp [render, readValue, skipBlanks]
  | .int n, fuel + 1, rest, _, _, hrest => readValue_int fuel n hrest
  | .str s, fuel + 1, rest, _, _, _ => by
    rw [render, toList_quote]
    simp only [List.cons_append, List.append_assoc, List.nil_append]
    rw [readValue_string, readString_escaped]
    simp
  | .arr [], fuel + 1, rest, _, _, _ => by simp [render, renderItems, readValue, skipBlanks]
  | .arr (x :: xs), fuel + 1, rest, h, hs, hrest => by
    have hitems := readItems_render (x :: xs) fuel [] rest (List.cons_ne_nil x xs)
      (by simpa [all, isFloat] using h) (by simp only [steps] at hs; omega) hrest
    -- the items start with the first item's text, so the array is not taken for an empty one
    obtain ⟨t, ht⟩ := toList_renderItems_cons x xs
    have hopen : Opens ((renderItems (x :: xs)).toList ++ ']' :: rest) := by
      rw [ht, List.append_assoc]
      exact (opens_render x (by simp [all, allItems, isFloat] at h; exact h.1)).append _
    rw [toList_render_arr]
    simp only [List.cons_append, List.append_assoc, List.nil_append]
    rw [readValue_items fuel hopen.ne_bracket, hitems]
    rfl
  | .obj [], fuel + 1, rest, _, _, _ => by simp [render, renderFields, readValue, skipBlanks]
  | .obj ((k, v) :: fs), fuel + 1, rest, h, hs, hrest => by
    have hfields := readFields_render ((k, v) :: fs) fuel [] rest (List.cons_ne_nil _ fs)
      (by simpa [all, isFloat] using h) (by simp only [steps] at hs; omega) hrest
    have hopen := (opens_renderFields_cons k v fs).append ('\x7d' :: rest)
    rw [toList_render_obj]
    simp only [List.cons_append, List.append_assoc, List.nil_append]
    rw [readValue_fields fuel hopen.ne_brace, hfields]
    rfl

/-- The text of items, then a closing bracket, reads back as an array of them after the items
read so far. -/
theorem readItems_render : ∀ (items : List Json) (fuel : Nat) (acc : List Json) (rest : List Char),
    items ≠ [] → allItems (fun v => !v.isFloat) items = true → stepsItems items ≤ fuel → Closes rest →
    readItems fuel acc ((renderItems items).toList ++ ']' :: rest) =
      some (.arr (acc.reverse ++ items), rest)
  | [], _, _, _, hne, _, _, _ => absurd rfl hne
  | _ :: _, 0, _, _, _, _, hs, _ => by simp [stepsItems] at hs
  | [x], fuel + 1, acc, rest, _, h, hs, _ => by
    have hx := readValue_render x fuel (']' :: rest) (by simpa [allItems] using h)
      (by simp only [stepsItems] at hs; omega) (closes_bracket rest)
    rw [renderItems, readItems.eq_2, hx]
    simp [skipBlanks]
  | x :: y :: ys, fuel + 1, acc, rest, _, h, hs, hrest => by
    simp only [allItems, Bool.and_eq_true] at h
    simp only [stepsItems] at hs
    have hys := readItems_render (y :: ys) fuel (x :: acc) rest (List.cons_ne_nil y ys)
      (by simpa [allItems] using h.2) (by simp only [stepsItems]; omega) hrest
    have hx := readValue_render x fuel (',' :: ((renderItems (y :: ys)).toList ++ ']' :: rest)) h.1
      (by omega) (closes_comma _)
    rw [renderItems.eq_3 _ _ (List.cons_ne_nil y ys), String.toList_append, String.toList_append,
      List.append_assoc, List.append_assoc, readItems.eq_2, toList_comma, List.singleton_append, hx]
    simp [skipBlanks, hys]

/-- The text of fields, then a closing brace, reads back as an object of them after the fields
read so far. -/
theorem readFields_render : ∀ (fields : List (String × Json)) (fuel : Nat)
    (acc : List (String × Json)) (rest : List Char),
    fields ≠ [] → allFields (fun v => !v.isFloat) fields = true → stepsFields fields ≤ fuel → Closes rest →
    readFields fuel acc ((renderFields fields).toList ++ '\x7d' :: rest) =
      some (.obj (acc.reverse ++ fields), rest)
  | [], _, _, _, hne, _, _, _ => absurd rfl hne
  | _ :: _, 0, _, _, _, _, hs, _ => by simp [stepsFields] at hs
  | [(k, v)], fuel + 1, acc, rest, _, h, hs, _ => by
    have hv := readValue_render v fuel ('\x7d' :: rest) (by simpa [allFields] using h)
      (by simp only [stepsFields] at hs; omega) (closes_brace rest)
    rw [renderFields, toList_field, readFields.eq_2]
    simp [skipBlanks, readString_escaped, hv]
  | (k, v) :: f :: fs, fuel + 1, acc, rest, _, h, hs, hrest => by
    simp only [allFields, Bool.and_eq_true] at h
    simp only [stepsFields] at hs
    have hfs := readFields_render (f :: fs) fuel ((k, v) :: acc) rest (List.cons_ne_nil f fs)
      (by simpa [allFields] using h.2) (by simp only [stepsFields]; omega) hrest
    have hv := readValue_render v fuel (',' :: ((renderFields (f :: fs)).toList ++ '\x7d' :: rest))
      h.1 (by omega) (closes_comma _)
    rw [renderFields.eq_3 _ _ _ (List.cons_ne_nil f fs), String.toList_append, String.toList_append,
      toList_field, toList_comma]
    rw [readFields.eq_2]
    simp [skipBlanks, readString_escaped, hv, hfs]
end

mutual
/-- A value's text pays for the steps that reading it takes, twice over. -/
theorem steps_le_length : ∀ j : Json, steps j ≤ 2 * (render j).toList.length + 1
  | .null | .bool _ | .int _ | .float _ | .str _ => by simp [steps]
  | .arr items => by
    have := stepsItems_le_length items
    rw [toList_render_arr]
    simp only [steps, List.length_cons, List.length_append]
    omega
  | .obj fields => by
    have := stepsFields_le_length fields
    rw [toList_render_obj]
    simp only [steps, List.length_cons, List.length_append]
    omega

theorem stepsItems_le_length : ∀ items : List Json,
    stepsItems items ≤ 2 * (renderItems items).toList.length + 2
  | [] => by simp [stepsItems]
  | [j] => by
    have := steps_le_length j
    simp only [stepsItems, renderItems]
    omega
  | j :: j' :: js => by
    have := steps_le_length j
    have := stepsItems_le_length (j' :: js)
    rw [renderItems.eq_3 _ _ (List.cons_ne_nil j' js)]
    simp only [stepsItems, String.toList_append, List.length_append, toList_comma,
      List.length_singleton] at *
    omega

theorem stepsFields_le_length : ∀ fields : List (String × Json),
    stepsFields fields ≤ 2 * (renderFields fields).toList.length + 2
  | [] => by simp [stepsFields]
  | [(k, v)] => by
    have := steps_le_length v
    rw [renderFields, toList_field]
    simp only [stepsFields, List.length_cons, List.length_append]
    omega
  | (k, v) :: f :: fs => by
    have := steps_le_length v
    have := stepsFields_le_length (f :: fs)
    rw [renderFields.eq_3 _ _ _ (List.cons_ne_nil f fs), String.toList_append,
      String.toList_append, toList_field, toList_comma]
    simp only [stepsFields, List.length_cons, List.length_append] at *
    omega
end

/-- The compact text of a value without floats reads back as that value. -/
theorem parse?_render (j : Json) (h : j.all (fun v => !v.isFloat) = true) :
    parse? (render j) = some j := by
  have hread := readValue_render j (2 * (render j).toList.length + 2) [] h
    (by have := steps_le_length j; omega) trivial
  rw [List.append_nil] at hread
  simp [parse?, hread, skipBlanks]

/-- The compact codec keeps its promise. -/
theorem compact_roundTrips : compact.RoundTrips := fun j h _ _ => parse?_render j h

end Json

/-- Reading each item of a list written item by item, where each written item reads back, gives
the list back. -/
theorem mapM_map_eq_some {α β : Type} {f : α → β} {g : β → Option α} (h : ∀ a, g (f a) = some a)
    (l : List α) : (l.map f).mapM g = some l := by
  rw [List.mapM_map, show g ∘ f = fun a => pure (id a) from funext h, List.mapM_pure, List.map_id]
  rfl

/-! ## Documents -/

theorem ErrorKind.ofText?_text (k : ErrorKind) : ErrorKind.ofText? k.text = some k := by
  cases k <;> simp [ErrorKind.ofText?, ErrorKind.all, ErrorKind.text]

namespace Record

theorem ofJson?_toJson (r : Record) : Record.ofJson? r.toJson = some r := by
  -- each field is looked up by its name in the object that writing built
  cases r with
  | text k n v =>
    simp [toJson, ofJson?, Json.field?, List.lookup_cons, fieldOr?, Json.str?, Json.int?]
  | array k n items =>
    simp [toJson, ofJson?, Json.field?, List.lookup_cons, fieldOr?, Json.str?, Json.int?,
      Json.arr?, Json.ofTexts, -List.mapM_map,
      mapM_map_eq_some (f := Json.str) (g := Json.str?) (fun _ => rfl)]
  | error e =>
    simp [toJson, ofJson?, Json.field?, List.lookup_cons, fieldOr?, Json.str?, Json.int?,
      ErrorKind.ofText?_text]
  | command k n v =>
    simp [toJson, ofJson?, Json.field?, List.lookup_cons, fieldOr?, Json.str?, Json.int?]

/-- A test that every string, array and object passes holds of a record's JSON exactly when it
holds of the record's line, the one integer in it. -/
theorem all_toJson {p : Json → Bool} (hs : ∀ s, p (.str s) = true)
    (ha : ∀ items, p (.arr items) = true) (ho : ∀ fields, p (.obj fields) = true) (r : Record) :
    r.toJson.all p = p (.int r.line) := by
  cases r <;> simp [toJson, line, Json.all, Json.allFields, Json.ofTexts, Json.allItems_eq_all, hs,
    ha, ho]

theorem toJson_keysDistinct (r : Record) : r.toJson.all Json.keysDistinct = true := by
  cases r <;> simp [toJson, Json.all, Json.allFields, Json.keysDistinct, Json.ofTexts,
    Json.allItems_eq_all]

end Record

namespace Ledger

variable {α : Type}

/-- Writing entries with new keys one after another appends them in order. -/
theorem entries_foldl_insert : ∀ (es : List (String × α)) (l : Ledger α),
    ((l.entries ++ es).map Prod.fst).Nodup →
      (es.foldl (fun l e => l.insert e.1 e.2) l).entries = l.entries ++ es
  | [], l, _ => by simp
  | e :: es, l, h => by
    have hnew : e.1 ∉ l.entries.map Prod.fst := by
      intro he
      simp only [List.map_append, List.map_cons, List.nodup_append, List.nodup_cons] at h
      exact h.2.2 _ he _ List.mem_cons_self rfl
    have hins : (l.insert e.1 e.2).entries = l.entries ++ [e] := Ledger.upsert_of_not_mem e.2 hnew
    rw [List.foldl_cons, entries_foldl_insert es _ (by rwa [hins, List.append_assoc]), hins,
      List.append_assoc, List.singleton_append]

theorem ext_entries {l l' : Ledger α} (h : l.entries = l'.entries) : l = l' := by
  obtain ⟨es, _⟩ := l
  obtain ⟨es', _⟩ := l'
  subst h
  rfl

theorem ofList_entries (l : Ledger α) : ofList l.entries = l :=
  ext_entries (entries_foldl_insert l.entries {} (by simpa using l.nodup))

end Ledger

namespace Document

/-- A document reads back from its JSON, with its records in their order. -/
theorem ofJson?_toJson (d : Document) : Document.ofJson? d.toJson = some d := by
  simp [toJson, ofJson?, Json.obj?, Record.fieldOr?, Json.field?, List.lookup_cons, Json.str?,
    -List.mapM_map, mapM_map_eq_some, Record.ofJson?_toJson, Ledger.ofList_entries]

/-- A test that every string, array and object passes holds of a document's JSON exactly when
it holds of the line of every record. -/
theorem all_toJson {p : Json → Bool} (hs : ∀ s, p (.str s) = true)
    (ha : ∀ items, p (.arr items) = true) (ho : ∀ fields, p (.obj fields) = true) (d : Document) :
    d.toJson.all p = d.content.values.all fun r => p (.int r.line) := by
  simp only [toJson, Ledger.values, Json.all, Json.allFields, Json.allFields_eq_all, hs, ho,
    List.all_map, Bool.true_and, Bool.and_true]
  exact congrArg d.content.entries.all (funext fun e => Record.all_toJson hs ha ho e.2)

theorem toJson_floatFree (d : Document) : d.toJson.all (fun v => !v.isFloat) = true := by
  simp [all_toJson, Json.isFloat]

theorem toJson_fitsWord (d : Document) : d.toJson.all Json.fitsWord = d.linesFit :=
  all_toJson (fun _ => rfl) (fun _ => rfl) (fun _ => rfl) d

theorem toJson_keysDistinct (d : Document) : d.toJson.all Json.keysDistinct = true := by
  -- the content's field names are the ledger's keys, which stand once each
  have hnames : (Prod.fst ∘ fun e : String × Record => (e.1, e.2.toJson)) = Prod.fst := rfl
  simp [toJson, Json.all, Json.allFields, Json.keysDistinct, Json.allFields_eq_all, hnames,
    d.content.nodup, Record.toJson_keysDistinct]

/-- A document whose lines a 64-bit word holds reads back from the text a codec that keeps its
promise writes. -/
theorem decodeWith_encodeWith {c : Json.Codec} (hc : c.RoundTrips) {d : Document}
    (hd : d.linesFit = true) : decodeWith c (d.encodeWith c) = some d := by
  rw [decodeWith, encodeWith,
    hc _ d.toJson_floatFree (d.toJson_fitsWord.trans hd) d.toJson_keysDistinct, Option.bind_some,
    ofJson?_toJson]

end Document

/-- Writing a document as JSON and reading the text back gives the same document, with its
records in the same order; and reading a text that writing produced, then writing the
document, gives the same text. This holds of every codec that reads back the values it writes
without floats, with integers that a 64-bit word holds and objects whose field names are distinct,
for every document whose lines a 64-bit word holds. -/
theorem document_json_round_trip (c : Json.Codec) (hc : c.RoundTrips) :
    (∀ d : Document, d.linesFit = true → Document.decodeWith c (d.encodeWith c) = some d) ∧
      ∀ b : String, (∃ d : Document, d.linesFit = true ∧ d.encodeWith c = b) →
        ∃ d : Document, Document.decodeWith c b = some d ∧ d.encodeWith c = b := by
  refine ⟨fun d hd => Document.decodeWith_encodeWith hc hd, ?_⟩
  rintro b ⟨d, hd, rfl⟩
  exact ⟨d, Document.decodeWith_encodeWith hc hd, rfl⟩

/-- The compact codec keeps the promise, and a document with a negative line and the largest
unsigned line comes back through it. -/
theorem document_json_round_trip_compact :
    Json.compact.RoundTrips ∧
      Document.decodeWith Json.compact
          (Document.encodeWith Json.compact
            { name := "n", content := Ledger.ofList [("1", .text "wl" (-3) "é\""),
                ("2", .error ⟨"zz", 18446744073709551615, "m", .unknownKeyword⟩)] }) =
        some { name := "n", content := Ledger.ofList [("1", .text "wl" (-3) "é\""),
          ("2", .error ⟨"zz", 18446744073709551615, "m", .unknownKeyword⟩)] } :=
  ⟨Json.compact_roundTrips,
    (document_json_round_trip Json.compact Json.compact_roundTrips).1 _ (by decide)⟩

end Colonnade
