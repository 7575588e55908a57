import Mathlib.Data.List.Induction
import Mathlib.Tactic.Common
import MeteredRelay.Text.Integer
import MeteredRelay.Text.Lines

/-!
# What the readers find

The readers of words, lines and numbers go through a text once, and keep what they have seen in an
accumulator.  What they are to find is said here without them: `Spaced` puts words and white space
together to a text, `Broken` does it with lines and line breaks, and `Spells` compares a text with
the digits that the library prints.

**`wordsBy_eq_iff`**, **`lines_eq_iff`** and **`readUInt64_eq_ok_iff`** say that each reader finds
this and nothing else.  In particular a text has one division into words and one into lines.
-/

namespace MeteredRelay.Text

/-! ## Words -/

section Words

variable {isGap : Char → Bool} {c : Char} {cs seen : List Char} {ws : List (List Char)}

/-- A text has these words: no word is empty or has a gap inside, and there is a gap between every
two of them. -/
inductive Spaced (isGap : Char → Bool) : List (List Char) → List Char → Prop
  | gap {gap : List Char} (hgap : ∀ c ∈ gap, isGap c = true) : Spaced isGap [] gap
  | word {gap word rest : List Char} {ws : List (List Char)} (hgap : ∀ c ∈ gap, isGap c = true)
      (hne : word ≠ []) (hword : ∀ c ∈ word, isGap c = false) (hrest : Spaced isGap ws rest)
      (hapart : ∀ c ∈ rest.head?, isGap c = true) :
      Spaced isGap (word :: ws) (gap ++ (word ++ rest))

/-- A gap in front of the first word is passed over. -/
lemma wordsAfter_gap {gap : List Char} (h : ∀ c ∈ gap, isGap c = true) (cs : List Char) :
    wordsAfter isGap [] (gap ++ cs) = wordsAfter isGap [] cs := by
  induction gap with
  | nil => rfl
  | cons c gap ih =>
      have hc : isGap c = true := h c List.mem_cons_self
      simp [wordsAfter, hc, ih fun x hx => h x (List.mem_cons_of_mem _ hx)]

/-- Characters that are no gap belong to the word that has begun. -/
lemma wordsAfter_word {word : List Char} (h : ∀ c ∈ word, isGap c = false) :
    wordsAfter isGap seen (word ++ cs) = wordsAfter isGap (word.reverse ++ seen) cs := by
  induction word generalizing seen with
  | nil => rfl
  | cons c word ih =>
      have hc : isGap c = false := h c List.mem_cons_self
      simp [wordsAfter, hc, ih fun x hx => h x (List.mem_cons_of_mem _ hx)]

/-- The word that has begun ends at the next gap. -/
lemma wordsAfter_of_head? (hne : seen ≠ []) (h : ∀ c ∈ cs.head?, isGap c = true) :
    wordsAfter isGap seen cs = seen.reverse :: wordsAfter isGap [] cs := by
  cases cs with
  | nil => simp [wordsAfter, hne]
  | cons c cs =>
      have hc : isGap c = true := h c rfl
      simp [wordsAfter, hc, hne]

lemma Spaced.wordsBy_eq (h : Spaced isGap ws cs) : wordsBy isGap cs = ws := by
  induction h with
  | gap hgap =>
      have hnone := wordsAfter_gap hgap []
      rwa [List.append_nil] at hnone
  | word hgap hne hword _ hapart ih =>
      rw [wordsBy, wordsAfter_gap hgap, wordsAfter_word hword, List.append_nil,
        wordsAfter_of_head? (by simpa using hne) hapart, List.reverse_reverse]
      exact congrArg (_ :: ·) ih

/-- The first word may stand at the start of the text. -/
lemma Spaced.first {word rest : List Char} (hne : word ≠ [])
    (hword : ∀ c ∈ word, isGap c = false) (hrest : Spaced isGap ws rest)
    (hapart : ∀ c ∈ rest.head?, isGap c = true) : Spaced isGap (word :: ws) (word ++ rest) :=
  .word (List.forall_mem_nil _) hne hword hrest hapart

lemma Spaced.cons (hc : isGap c = true) (h : Spaced isGap ws cs) : Spaced isGap ws (c :: cs) := by
  cases h with
  | gap hgap => exact .gap (List.forall_mem_cons.mpr ⟨hc, hgap⟩)
  | word hgap hne hword hrest hapart =>
      exact .word (List.forall_mem_cons.mpr ⟨hc, hgap⟩) hne hword hrest hapart

/-- A text has the words that are read from it, given what has been seen of the first one. -/
lemma spaced_wordsAfter (seen : List Char) (h : ∀ c ∈ seen, isGap c = false) :
    Spaced isGap (wordsAfter isGap seen cs) (seen.reverse ++ cs) := by
  induction cs generalizing seen with
  | nil =>
      by_cases hne : seen = []
      · subst hne
        exact .gap (by simp)
      · rw [wordsAfter_of_head? hne (by simp)]
        exact .first (by simpa using hne) (by simpa using h) (.gap (by simp)) (by simp)
  | cons c cs ih =>
      by_cases hc : isGap c = true
      · have hrest : Spaced isGap (wordsAfter isGap [] (c :: cs)) (c :: cs) := by
          rw [wordsAfter, if_pos hc]
          exact .cons hc (ih [] (by simp))
        by_cases hne : seen = []
        · subst hne
          exact hrest
        · rw [wordsAfter_of_head? hne (by simp [hc])]
          exact .first (by simpa using hne) (by simpa using h) hrest (by simp [hc])
      · rw [wordsAfter, if_neg hc]
        have hseen : ∀ x ∈ c :: seen, isGap x = false :=
          List.forall_mem_cons.mpr ⟨by simpa using hc, h⟩
        have hword := ih (c :: seen) hseen
        rwa [List.reverse_cons, List.append_assoc] at hword

/-- **The words of a text are those that it is put together from.** -/
theorem wordsBy_eq_iff : wordsBy isGap cs = ws ↔ Spaced isGap ws cs := by
  constructor
  · rintro rfl
    exact spaced_wordsAfter [] (by simp)
  · exact Spaced.wordsBy_eq

lemma words_eq_iff : words cs = ws ↔ Spaced isBlank ws cs := wordsBy_eq_iff

end Words

/-! ## Lines -/

section Lines

variable {cs seen : List Char} {ls : List (List Char)}

/-- A text has these lines: each is followed by a line break, which the last one may lack unless it
is empty.  A carriage return in front of a line break belongs to its line, where it is white
space. -/
inductive Broken : List (List Char) → List Char → Prop
  | nothing : Broken [] []
  | last {line : List Char} (hne : line ≠ []) (hline : '\n' ∉ line) : Broken [line] line
  | line {line rest : List Char} {ls : List (List Char)} (hline : '\n' ∉ line)
      (hrest : Broken ls rest) : Broken (line :: ls) (line ++ '\n' :: rest)

lemma linesAfter_last (hne : seen ≠ [] ∨ cs ≠ []) (h : '\n' ∉ cs) :
    linesAfter seen cs = [seen.reverse ++ cs] := by
  induction cs generalizing seen with
  | nil => simpa [linesAfter] using hne
  | cons c cs ih =>
      have hc : c ≠ '\n' := fun e => h (e ▸ List.mem_cons_self)
      have hcs : '\n' ∉ cs := fun m => h (List.mem_cons_of_mem _ m)
      rw [linesAfter, if_neg hc, ih (.inl (List.cons_ne_nil _ _)) hcs]
      simp

lemma Broken.lines_eq (h : Broken ls cs) : lines cs = ls := by
  induction h with
  | nothing => rfl
  | last hne hline => exact linesAfter_last (.inr hne) hline
  | line hline _ ih =>
      rw [lines, linesAfter_append _ _ _ hline, ← lines, ih]
      rfl

/-- A text has the lines that are read from it, given what has been seen of the first one. -/
lemma broken_linesAfter (seen : List Char) (h : '\n' ∉ seen.reverse) :
    Broken (linesAfter seen cs) (seen.reverse ++ cs) := by
  induction cs generalizing seen with
  | nil =>
      rw [List.append_nil]
      by_cases hne : seen = []
      · subst hne
        exact .nothing
      · rw [linesAfter_last (.inl hne) List.not_mem_nil, List.append_nil]
        exact .last (by simpa using hne) h
  | cons c cs ih =>
      by_cases hc : c = '\n'
      · subst hc
        rw [linesAfter, if_pos rfl]
        exact .line h (ih [] List.not_mem_nil)
      · rw [linesAfter, if_neg hc]
        have hline : Broken (linesAfter (c :: seen) cs) ((c :: seen).reverse ++ cs) :=
          ih _ (by simpa [Ne.symm hc] using h)
        rwa [List.reverse_cons, List.append_assoc] at hline

lemma Broken.notMem {line : List Char} (h : Broken ls cs) (hline : line ∈ ls) : '\n' ∉ line := by
  induction h with
  | nothing => contradiction
  | last _ hlast => rwa [List.mem_singleton.mp hline]
  | line hfirst _ ih =>
      rcases List.mem_cons.mp hline with rfl | hmem
      · exact hfirst
      · exact ih hmem

/-- **The lines of a text are those that it is put together from.** -/
theorem lines_eq_iff : lines cs = ls ↔ Broken ls cs := by
  constructor
  · rintro rfl
    exact broken_linesAfter [] List.not_mem_nil
  · exact Broken.lines_eq

/-- A text is cut at the first of the characters. -/
lemma cutAt_eq_some_iff {c : Char} {front back : List Char} :
    cutAt c cs = some (front, back) ↔ cs = front ++ c :: back ∧ c ∉ front := by
  induction cs generalizing front with
  | nil => simp [cutAt]
  | cons x cs ih =>
      rw [cutAt]
      split
      · rename_i hx
        subst hx
        cases front <;> simp +contextual [eq_comm]
      · rename_i hx
        cases front with
        | nil => simp [hx]
        | cons y front =>
            simp only [Option.map_eq_some_iff, Prod.mk.injEq, List.cons.injEq, and_assoc,
              Prod.exists, ↓existsAndEq, ih, and_true, List.cons_append, List.mem_cons, not_or]
            constructor
            · rintro ⟨hcs, hfront, rfl⟩
              exact ⟨rfl, hcs, Ne.symm hx, hfront⟩
            · rintro ⟨rfl, hcs, -, hfront⟩
              exact ⟨hcs, hfront, rfl⟩

end Lines

/-! ## Numbers -/

section Numbers

variable {base bound d n : Nat} {c : Char} {cs : List Char}

/-- A text spells a number: its digits, of either case, behind any number of zeros. -/
def Spells (base n : Nat) (cs : List Char) : Prop :=
  ∃ zeros, cs.map Char.toLower = List.replicate zeros '0' ++ Nat.toDigits base n

/-- A text spells a number, possibly behind a plus sign. -/
def Numeral (base n : Nat) (cs : List Char) : Prop :=
  Spells base n cs ∨ ∃ digits, cs = '+' :: digits ∧ Spells base n digits

/-- The characters with the value of a digit are the one that is printed for it and its capital. -/
lemma hexDigit?_eq_some_iff : hexDigit? c = some d ↔ d < 16 ∧ c.toLower = Nat.digitChar d := by
  by_cases hc : c.toNat < 128
  · -- the two descriptions of a digit have little in common, so all of ASCII is tried
    have hall : ∀ k < 128, (∀ d ∈ hexDigit? (.ofNat k), d < 16) ∧
        ∀ d < 16, hexDigit? (.ofNat k) = some d ↔ (Char.ofNat k).toLower = Nat.digitChar d := by
      decide +kernel
    obtain ⟨hlt, heq⟩ := hall c.toNat hc
    rw [Char.ofNat_toNat] at hlt heq
    exact ⟨fun h => ⟨hlt d h, (heq d (hlt d h)).mp h⟩, fun ⟨hd, h⟩ => (heq d hd).mpr h⟩
  · have habove (x : Char) (hx : x.toNat < 128) : ¬ c ≤ x := fun hle =>
      hc (Nat.lt_of_le_of_lt (Char.le_def.mp hle) hx)
    have hlower : c.toLower = c := dif_neg fun h => habove 'Z' (by decide) h.2
    have hprinted : ∀ d < 16, (Nat.digitChar d).toNat < 128 := by decide
    rw [hlower]
    constructor
    · simp [hexDigit?, habove]
    · rintro ⟨hd, rfl⟩
      exact absurd (hprinted d hd) hc

lemma digit?_eq_some_iff (hbase : base ≤ 16) :
    digit? base c = some d ↔ d < base ∧ c.toLower = Nat.digitChar d := by
  rw [digit?, Option.filter_eq_some_iff, hexDigit?_eq_some_iff, decide_eq_true_eq]
  exact ⟨fun ⟨⟨_, h⟩, hd⟩ => ⟨hd, h⟩, fun ⟨hd, h⟩ => ⟨⟨Nat.lt_of_lt_of_le hd hbase, h⟩, hd⟩⟩

lemma Spells.ne_nil (h : Spells base n cs) : cs ≠ [] := by
  rintro rfl
  obtain ⟨zeros, h⟩ := h
  simp [Nat.toDigits_ne_nil] at h

lemma spells_zero_iff (hbase : 1 < base) :
    Spells base 0 cs ↔ cs ≠ [] ∧ ∃ zeros, cs.map Char.toLower = List.replicate zeros '0' := by
  rw [Spells, Nat.toDigits_of_lt_base (by omega)]
  constructor
  · rintro ⟨zeros, h⟩
    refine ⟨fun hnil => ?_, zeros + 1, by rw [h, List.replicate_succ']; rfl⟩
    simp [hnil] at h
  · rintro ⟨hne, zeros, h⟩
    cases zeros with
    | zero => exact absurd (List.map_eq_nil_iff.mp h) hne
    | succ zeros => exact ⟨zeros, by rw [h, List.replicate_succ']; rfl⟩

/-- The last digit of a number is its remainder, and those before it spell the quotient. -/
lemma spells_concat (hbase : 1 < base) : Spells base n (cs ++ [c]) ↔
    c.toLower = Nat.digitChar (n % base) ∧ (n < base ∧ cs = [] ∨ Spells base (n / base) cs) := by
  have hlast (front : List Char) (x : Char) :
      (cs ++ [c]).map Char.toLower = front ++ [x] ↔
        cs.map Char.toLower = front ∧ c.toLower = x := by
    simp
  rw [Spells, Nat.toDigits_eq_if hbase]
  split
  · rename_i hlt
    simp only [hlast, exists_and_right, Nat.mod_eq_of_lt hlt, Nat.div_eq_of_lt hlt,
      spells_zero_iff hbase]
    rw [and_comm]
    refine and_congr_right fun _ => ⟨fun hzeros => ?_, ?_⟩
    · by_cases hnil : cs = []
      · exact .inl ⟨hlt, hnil⟩
      · exact .inr ⟨hnil, hzeros⟩
    · rintro (⟨-, rfl⟩ | ⟨-, hzeros⟩)
      · exact ⟨0, rfl⟩
      · exact hzeros
  · rename_i hle
    simp only [← List.append_assoc, hlast, exists_and_right]
    rw [and_comm, Spells]
    simp [hle]

/-- One more digit spells the number that it makes of the one before. -/
lemma spells_concat_iff (hbase : 1 < base) (hbase' : base ≤ 16) : Spells base n (cs ++ [c]) ↔
    ∃ k d, (cs = [] ∧ k = 0 ∨ Spells base k cs) ∧ digit? base c = some d ∧ n = base * k + d := by
  simp only [digit?_eq_some_iff hbase', spells_concat hbase]
  constructor
  · rintro ⟨hc, hcs⟩
    refine ⟨n / base, n % base, ?_, ⟨Nat.mod_lt _ (by omega), hc⟩, (Nat.div_add_mod n base).symm⟩
    exact hcs.imp (fun ⟨hlt, hnil⟩ => ⟨hnil, Nat.div_eq_of_lt hlt⟩) id
  · rintro ⟨k, d, hcs, ⟨hd, hc⟩, rfl⟩
    have hpos : 0 < base := by omega
    rw [Nat.mul_add_mod, Nat.mod_eq_of_lt hd, Nat.mul_add_div hpos, Nat.div_eq_of_lt hd]
    exact ⟨hc, hcs.imp (fun ⟨hnil, hk⟩ => ⟨by simpa [hk] using hd, hnil⟩) id⟩

lemma digitsFrom_append (r : List Char) : digitsFrom base bound n (cs ++ r) =
    (digitsFrom base bound n cs).bind fun k => digitsFrom base bound k r := by
  induction cs generalizing n with
  | nil => rfl
  | cons c cs ih =>
      rw [List.cons_append, digitsFrom, digitsFrom]
      cases digit? base c with
      | none => rfl
      | some d =>
          by_cases hlt : base * n + d < bound
          · simp only [if_pos hlt, ih]
          · simp only [if_neg hlt]
            rfl

lemma digitsFrom_singleton_eq_ok_iff {k : Nat} : digitsFrom base bound k [c] = .ok n ↔
    ∃ d, digit? base c = some d ∧ n = base * k + d ∧ n < bound := by
  rw [digitsFrom]
  cases digit? base c with
  | none => simp
  | some d =>
      by_cases hlt : base * k + d < bound
      · simp only [if_pos hlt, digitsFrom, Except.ok.injEq, Option.some.injEq]
        constructor
        · rintro rfl
          exact ⟨d, rfl, rfl, hlt⟩
        · rintro ⟨_, rfl, rfl, -⟩
          rfl
      · simp only [if_neg hlt, reduceCtorEq, Option.some.injEq, false_iff]
        rintro ⟨_, rfl, rfl, hn⟩
        exact hlt hn

/-- Digits are read to the end exactly if they spell a number below the bound: a number grows with
each digit, so it is enough to look at the last. -/
lemma digitsFrom_eq_ok_iff (hbase : 1 < base) (hbase' : base ≤ 16) :
    digitsFrom base bound 0 cs = .ok n ↔ cs = [] ∧ n = 0 ∨ n < bound ∧ Spells base n cs := by
  induction cs using List.reverseRecOn generalizing n with
  | nil =>
      have hnone : ¬ Spells base n [] := fun h => h.ne_nil rfl
      simp [digitsFrom, hnone, eq_comm]
  | append_singleton cs c ih =>
      have hsplit : digitsFrom base bound 0 (cs ++ [c]) = .ok n ↔ ∃ k,
          digitsFrom base bound 0 cs = .ok k ∧ digitsFrom base bound k [c] = .ok n := by
        rw [digitsFrom_append]
        cases digitsFrom base bound 0 cs <;> simp [Except.bind]
      simp only [hsplit, ih, digitsFrom_singleton_eq_ok_iff, spells_concat_iff hbase hbase']
      have hne : cs ++ [c] ≠ [] := by simp
      constructor
      · rintro ⟨k, hk, d, hd, rfl, hlt⟩
        exact .inr ⟨hlt, k, d, hk.imp_right And.right, hd, rfl⟩
      · rintro (⟨hnil, -⟩ | ⟨hlt, k, d, hk, hd, rfl⟩)
        · exact absurd hnil hne
        · have hle : k ≤ base * k := Nat.le_mul_of_pos_left k (by omega)
          exact ⟨k, hk.imp_right fun h => ⟨by omega, h⟩, d, hd, rfl, hlt⟩

/-- The characters that spell a number are digits. -/
lemma Spells.exists_digit (hbase : 1 < base) (hbase' : base ≤ 16) (h : Spells base n cs)
    (hc : c ∈ cs) : ∃ d, digit? base c = some d := by
  induction cs using List.reverseRecOn generalizing n with
  | nil => contradiction
  | append_singleton cs x ih =>
      obtain ⟨k, d, hcs, hx, -⟩ := (spells_concat_iff hbase hbase').mp h
      rcases List.mem_append.mp hc with hmem | hmem
      · rcases hcs with ⟨rfl, -⟩ | hcs
        · contradiction
        · exact ih hcs hmem
      · obtain rfl := List.mem_singleton.mp hmem
        exact ⟨d, hx⟩

/-- **A number is read from the texts that spell it**, below the bound and no other. -/
theorem readNat_eq_ok_iff (hbase : 1 < base) (hbase' : base ≤ 16) :
    readNat base bound cs = .ok n ↔ n < bound ∧ Numeral base n cs := by
  have hplus (digits : List Char) : ¬ Spells base n ('+' :: digits) := fun h => by
    obtain ⟨d, hd⟩ := h.exists_digit hbase hbase' List.mem_cons_self
    contradiction
  have hnil : ¬ Spells base n [] := fun h => h.ne_nil rfl
  have hread (r : List Char) (hne : r ≠ []) :
      digitsFrom base bound 0 r = .ok n ↔ n < bound ∧ Spells base n r := by
    simp [digitsFrom_eq_ok_iff hbase hbase', hne]
  unfold readNat Numeral
  split
  · simp [hnil]
  · simp [hplus, hnil]
  · rename_i r hne
    simp [hread r hne, hplus]
  · rename_i hne _ hsigned
    have hunsigned : ¬ ∃ digits, cs = '+' :: digits ∧ Spells base n digits :=
      fun ⟨digits, h, _⟩ => hsigned digits h
    simp [hread cs hne, hunsigned]

/-- A word is read from the texts that spell it. -/
theorem readUInt64_eq_ok_iff (hbase : 1 < base) (hbase' : base ≤ 16) {v : UInt64} :
    readUInt64 base cs = .ok v ↔ Numeral base v.toNat cs := by
  have hmap : readUInt64 base cs = .ok v ↔
      ∃ n, readNat base UInt64.size cs = .ok n ∧ UInt64.ofNat n = v := by
    rw [readUInt64]
    cases readNat base UInt64.size cs <;> simp [Except.map]
  simp only [hmap, readNat_eq_ok_iff hbase hbase']
  constructor
  · rintro ⟨n, ⟨hlt, hn⟩, rfl⟩
    rwa [UInt64.toNat_ofNat_of_lt' hlt]
  · intro hv
    exact ⟨v.toNat, ⟨v.toNat_lt, hv⟩, UInt64.ofNat_toNat⟩

end Numbers

end MeteredRelay.Text
