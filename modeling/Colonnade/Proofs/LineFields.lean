import Colonnade.Line
/-! # A line splits at its first two colons

The line pattern's search for the shortest identifier and keyword comes, on a line without line
breaks, to the split at the first two colons; a line with fewer has no fields
(`parse?_splits_at_first_colons`).
-/
namespace Colonnade

open Colonnade.Text

/-! ## Blanks around a colon -/

theorem isBlank_colon : isBlank ':' = false := by decide

theorem mem_of_mem_dropBlanks {x : Char} {u : List Char} (h : x ∈ dropBlanks u) : x ∈ u :=
  (List.dropWhile_suffix isBlank).subset h

theorem dropBlanks_append_colon (u t : List Char) :
    dropBlanks (u ++ ':' :: t) = dropBlanks u ++ ':' :: t := by
  induction u with
  | nil => simp [dropBlanks, isBlank_colon]
  | cons c u ih =>
    cases hc : isBlank c
    · simp [dropBlanks, hc]
    · simpa [dropBlanks, hc] using ih

theorem dropBlanksEnd_of_all_blank {u : List Char} (h : u.all isBlank = true) :
    dropBlanksEnd u = [] := by
  rw [dropBlanksEnd, List.reverse_eq_nil_iff, dropBlanks_eq_nil_iff, List.all_reverse]
  exact h

/-- A blank end that follows a character that is not blank goes after it. -/
theorem dropBlanksEnd_cons {c : Char} {u : List Char} (h : (c :: u).all isBlank = false) :
    dropBlanksEnd (c :: u) = c :: dropBlanksEnd u := by
  unfold dropBlanksEnd dropBlanks
  rw [List.reverse_cons, List.dropWhile_append]
  cases hu : u.all isBlank
  · have hne : (u.reverse.dropWhile isBlank).isEmpty = false := by
      cases hd : u.reverse.dropWhile isBlank with
      | nil =>
        have := (dropBlanks_eq_nil_iff u.reverse).1 hd
        simp [hu] at this
      | cons x xs => rfl
    simp [hne]
  · have hc : isBlank c = false := by simpa [hu] using h
    have hnil : u.reverse.dropWhile isBlank = [] := by
      simpa [dropBlanks] using (dropBlanks_eq_nil_iff u.reverse).2 (by simpa using hu)
    simp [hnil, hc]

/-- What blanks leave of characters with no colon has no colon at its head. -/
theorem dropBlanks_head_ne_colon {u : List Char} (hu : ':' ∉ u) :
    ∀ {x : Char} {xs : List Char}, dropBlanks u = x :: xs → x ≠ ':' := by
  intro x xs h hx
  subst hx
  exact hu (mem_of_mem_dropBlanks (by rw [h]; exact .head _))

/-! ## The search for a field -/

namespace Line

variable {β : Type} {k : List Char → List Char → Option β} {r : β}

/-- Before the first colon, the search hands `k` what stands there, trimmed at its end, and what
follows the colon; if `k` takes these, the search ends there. -/
theorem fieldThen_of_split :
    ∀ (acc u t : List Char), ':' ∉ u → '\n' ∉ u →
      k (acc.reverse ++ dropBlanksEnd u) t = some r → fieldThen k acc (u ++ ':' :: t) = some r
  | acc, [], t, _, _, hk => by
    have hcolon : dropBlanks (':' :: t) = ':' :: t := dropBlanks_append_colon [] t
    simp only [dropBlanksEnd, dropBlanks, List.reverse_nil, List.dropWhile_nil,
      List.append_nil] at hk
    rw [List.nil_append, fieldThen.eq_2, hcolon]
    simp [hk]
  | acc, c :: u, t, hu, hn, hk => by
    have hcu : ':' ∉ u := fun h => hu (List.mem_cons_of_mem _ h)
    have hcn : c ≠ '\n' := fun h => hn (h ▸ List.mem_cons_self)
    rw [List.cons_append, fieldThen.eq_2, ← List.cons_append, dropBlanks_append_colon]
    cases hall : (c :: u).all isBlank
    · -- a character before the colon is not blank: the field goes on past `c`
      obtain ⟨x, xs, hx⟩ : ∃ x xs, dropBlanks (c :: u) = x :: xs := by
        cases hd : dropBlanks (c :: u) with
        | nil => simp [(dropBlanks_eq_nil_iff _).1 hd] at hall
        | cons x xs => exact ⟨x, xs, rfl⟩
      have hxc : x ≠ ':' := dropBlanks_head_ne_colon hu hx
      have hrest : fieldThen k (c :: acc) (u ++ ':' :: t) = some r := by
        refine fieldThen_of_split (c :: acc) u t hcu (fun h => hn (List.mem_cons_of_mem _ h)) ?_
        simpa [dropBlanksEnd_cons hall] using hk
      rw [hx, List.cons_append]
      simp [hxc, hcn, hrest]
    · -- only blanks before the colon: the identifier ends here
      have hnil : dropBlanks (c :: u) = [] := (dropBlanks_eq_nil_iff _).2 hall
      rw [dropBlanksEnd_of_all_blank hall, List.append_nil] at hk
      simp [hnil, hk]

/-- Whatever the search finds, `k` took it from what follows some colon. -/
theorem fieldThen_split :
    ∀ {acc cs : List Char}, fieldThen k acc cs = some r →
      ∃ ident u t, cs = u ++ ':' :: t ∧ k ident t = some r
  | _, [], h => by cases h
  | acc, c :: rest, h => by
    rw [fieldThen.eq_2] at h
    simp only [Option.orElse_eq_orElse, Option.orElse_eq_or] at h
    rcases Option.or_eq_some_iff.1 h with h | ⟨-, h⟩
    · split at h
      · rename_i tail htail
        -- what blanks leave is a suffix of the line, so the colon stands in the line
        obtain ⟨pre, hpre⟩ := (List.dropWhile_suffix isBlank (l := c :: rest))
        exact ⟨_, pre, tail, by rw [← hpre]; exact congrArg _ htail, h⟩
      · cases h
    · split at h
      · cases h
      · obtain ⟨ident, u, t, rfl, hk⟩ := fieldThen_split h
        exact ⟨ident, c :: u, t, rfl, hk⟩

end Line

/-! ## Colons of a line -/

theorem exists_split_first_colon :
    ∀ {cs : List Char}, ':' ∈ cs → ∃ u t, cs = u ++ ':' :: t ∧ ':' ∉ u
  | c :: rest, h => by
    by_cases hc : c = ':'
    · exact ⟨[], rest, by rw [hc]; rfl, List.not_mem_nil⟩
    · obtain ⟨u, t, rfl, hu⟩ := exists_split_first_colon
        ((List.mem_cons.1 h).resolve_left (Ne.symm hc))
      exact ⟨c :: u, t, rfl, by simp [hu, Ne.symm hc]⟩

theorem exists_split_two_colons {cs : List Char} (h : 2 ≤ cs.count ':') :
    ∃ a b c, cs = a ++ ':' :: b ++ ':' :: c ∧ ':' ∉ a ∧ ':' ∉ b := by
  obtain ⟨a, t, rfl, ha⟩ := exists_split_first_colon
    (List.count_pos_iff.1 (show 0 < cs.count ':' by omega))
  have ht : 0 < t.count ':' := by
    rw [List.count_append, List.count_cons_self, List.count_eq_zero_of_not_mem ha] at h
    omega
  obtain ⟨b, c, rfl, hb⟩ := exists_split_first_colon (List.count_pos_iff.1 ht)
  exact ⟨a, b, c, by simp, ha, hb⟩

theorem count_colon_dropBlanks_le (cs : List Char) :
    (dropBlanks cs).count ':' ≤ cs.count ':' :=
  (List.dropWhile_suffix isBlank).sublist.count_le _

namespace Line

/-- On a line without line breaks the fields are the three parts around the first two colons. -/
theorem fields_of_split {a b c : List Char} (ha : ':' ∉ a) (hb : ':' ∉ b)
    (hn : '\n' ∉ a ++ ':' :: b ++ ':' :: c) :
    fields (a ++ ':' :: b ++ ':' :: c) =
      some (dropBlanksEnd (dropBlanks a), dropBlanksEnd (dropBlanks b), dropBlanks c) := by
  have hna : '\n' ∉ a := fun h => hn (by simp [h])
  have hnb : '\n' ∉ b := fun h => hn (by simp [h])
  have hnc : '\n' ∉ dropBlanks c := fun h => hn (by simp [mem_of_mem_dropBlanks h])
  have hsub : ∀ {v : List Char}, ':' ∉ v → ':' ∉ dropBlanks v :=
    fun hv h => hv (mem_of_mem_dropBlanks h)
  have hcontent : contentOf c = some (dropBlanks c) := by simp [contentOf, hnc]
  have hkeyword : fieldThen (fun kw rest' => (contentOf rest').map fun c' =>
      (dropBlanksEnd (dropBlanks a), kw, c')) [] (dropBlanks (b ++ ':' :: c)) =
        some (dropBlanksEnd (dropBlanks a), dropBlanksEnd (dropBlanks b), dropBlanks c) := by
    rw [dropBlanks_append_colon]
    exact fieldThen_of_split [] _ c (hsub hb) (fun h => hnb (mem_of_mem_dropBlanks h))
      (by simp [hcontent])
  unfold fields
  rw [List.append_assoc, List.cons_append, dropBlanks_append_colon]
  exact fieldThen_of_split [] _ _ (hsub ha) (fun h => hna (mem_of_mem_dropBlanks h))
    (by simpa using hkeyword)

theorem two_le_count_of_fields {cs : List Char} {f : List Char × List Char × List Char}
    (h : fields cs = some f) : 2 ≤ cs.count ':' := by
  obtain ⟨ident, u, t, hcs, hk⟩ := fieldThen_split h
  obtain ⟨kw, u', t', ht, -⟩ := fieldThen_split hk
  have h₁ := count_colon_dropBlanks_le cs
  have h₂ := count_colon_dropBlanks_le t
  rw [hcs] at h₁
  rw [ht] at h₂
  simp [List.count_append] at h₁ h₂
  omega

theorem parse?_of_split {n : Nat} {line : String} {a b c : List Char}
    (hline : '\n' ∉ line.toList) (hcs : line.toList = a ++ ':' :: b ++ ':' :: c) (ha : ':' ∉ a)
    (hb : ':' ∉ b) :
    parse? n line = some ⟨n, trim (String.ofList a), lower (trim (String.ofList b)),
      trimStart (String.ofList c)⟩ := by
  rw [parse?, hcs, fields_of_split ha hb (hcs ▸ hline)]
  simp [trim, trimStart]

theorem parse?_eq_none_iff (n : Nat) {line : String} (hline : '\n' ∉ line.toList) :
    parse? n line = none ↔ line.toList.count ':' < 2 := by
  constructor
  · -- two colons give fields
    intro hnone
    refine Nat.lt_of_not_le fun hge => ?_
    obtain ⟨a, b, c, hcs, ha, hb⟩ := exists_split_two_colons hge
    rw [parse?_of_split hline hcs ha hb] at hnone
    cases hnone
  · -- fields need two colons
    intro hlt
    cases hf : fields line.toList with
    | none => simp [parse?, hf]
    | some f => exact absurd (two_le_count_of_fields hf) (by omega)

end Line

/-- The line matcher accepts exactly the lines with two colons, and splits them there: for a line
without line breaks, there are no fields exactly when the line has fewer than two colons, and when
it splits as `a : b : c` with no colon in `a` or `b`, the identifier is `a` trimmed, the keyword
`b` trimmed and lower-cased, and the content `c` with its leading blanks dropped. -/
theorem parse?_splits_at_first_colons (n : Nat) (line : String) (hline : '\n' ∉ line.toList) :
    (Line.parse? n line = none ↔ line.toList.count ':' < 2) ∧
      ∀ a b c : List Char, line.toList = a ++ ':' :: b ++ ':' :: c → ':' ∉ a → ':' ∉ b →
        Line.parse? n line = some ⟨n, trim (String.ofList a), lower (trim (String.ofList b)),
          trimStart (String.ofList c)⟩ :=
  ⟨Line.parse?_eq_none_iff n hline, fun _ _ _ hcs ha hb => Line.parse?_of_split hline hcs ha hb⟩

theorem parse?_splits_at_first_colons_sample :
    '\n' ∉ " a : B:c : d".toList ∧
      (Line.parse? 7 " a : B:c : d" = none ↔ " a : B:c : d".toList.count ':' < 2) ∧
      Line.parse? 7 " a : B:c : d" =
        some ⟨7, trim (String.ofList [' ', 'a', ' ']), lower (trim (String.ofList [' ', 'B'])),
          trimStart (String.ofList ['c', ' ', ':', ' ', 'd'])⟩ := by
  have hline : '\n' ∉ " a : B:c : d".toList := by decide
  obtain ⟨hnone, hsplit⟩ := parse?_splits_at_first_colons 7 " a : B:c : d" hline
  exact ⟨hline, hnone, hsplit [' ', 'a', ' '] [' ', 'B'] ['c', ' ', ':', ' ', 'd'] (by decide)
    (by decide) (by decide)⟩

end Colonnade
