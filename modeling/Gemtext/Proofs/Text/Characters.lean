import Gemtext.Proofs.Text.Lines

/-!
# The characters of a text

A number is written in digits.  Trimming and joining words put no visible characters in, and the
words joined by spaces hold no other blank character.  A text is plain (`Text.isPlain`) if it holds
neither a backtick nor a newline, so that it can open no fence and ends no line.  It is tame
(`Text.isTame`) if it holds neither a backtick nor a carriage return.
-/

namespace Gemtext

namespace Text

variable {c : Char} {s t : Text}

/-! ## Numbers -/

/-- Every character of a number is a digit. -/
theorem isDigit_of_mem_ofNat {n : Nat} (h : c ∈ ofNat n) : c.isDigit :=
  Nat.isDigit_of_mem_toDigits (by decide) (by decide) h

/-- A digit is visible. -/
theorem isBlank_of_isDigit (h : c.isDigit) : isBlank c = false := by
  obtain ⟨hlow, hhigh⟩ : 48 ≤ c.toNat ∧ c.toNat ≤ 57 := Char.isDigit_iff_toNat.1 h
  simp only [isBlank, Bool.or_eq_false_iff, Bool.and_eq_false_iff, decide_eq_false_iff_not,
    beq_eq_false_iff_ne]
  omega

/-- A number begins visibly. -/
theorem exists_ofNat_eq_cons (n : Nat) : ∃ d rest, ofNat n = d :: rest ∧ isBlank d = false := by
  obtain ⟨d, rest, hdigits⟩ := List.exists_cons_of_ne_nil (Nat.toDigits_ne_nil (n := n) (b := 10))
  have hd : d ∈ ofNat n := by
    rw [ofNat, hdigits]
    exact List.mem_cons_self
  exact ⟨d, rest, hdigits, isBlank_of_isDigit (isDigit_of_mem_ofNat hd)⟩

/-! ## Trimmed texts and words -/

/-- Trimming leaves nothing but what was there. -/
theorem mem_of_mem_trim (h : c ∈ s.trim) : c ∈ s :=
  (trim_isInfix s).mem h

/-- A word holds visible characters of the text. -/
theorem mem_of_mem_words {word : Text} (hword : word ∈ words s) (h : c ∈ word) :
    c ∈ s ∧ isBlank c = false := by
  induction s generalizing word with
  | nil => exact absurd hword List.not_mem_nil
  | cons first rest ih =>
    have hrest {word : Text} (hword : word ∈ words rest) (h : c ∈ word) :
        c ∈ first :: rest ∧ isBlank c = false :=
      (ih hword h).imp_left (List.mem_cons_of_mem first)
    rw [words.eq_def] at hword
    dsimp only at hword
    split at hword
    · exact hrest hword h
    · -- the character begins a word, or belongs to the next one
      rename_i hfirst
      have hself (h : c = first) : c ∈ first :: rest ∧ isBlank c = false :=
        ⟨List.mem_cons.2 (.inl h), by rw [h]; exact Bool.eq_false_iff.2 hfirst⟩
      split at hword
      · rw [List.mem_singleton.1 hword] at h
        exact hself (List.mem_singleton.1 h)
      · split at hword
        · rcases List.mem_cons.1 hword with rfl | hword
          · exact hself (List.mem_singleton.1 h)
          · exact hrest hword h
        · split at hword
          · rw [List.mem_singleton.1 hword] at h
            exact hself (List.mem_singleton.1 h)
          · rename_i next more hwords
            rcases List.mem_cons.1 hword with rfl | hword
            · rcases List.mem_cons.1 h with h | h
              · exact hself h
              · exact hrest (by rw [hwords]; exact List.mem_cons_self) h
            · exact hrest (by rw [hwords]; exact List.mem_cons_of_mem _ hword) h

/-- No word is empty. -/
theorem ne_nil_of_mem_words {word : Text} (hword : word ∈ words s) : word ≠ [] := by
  fun_induction words s with
  | case1 => exact absurd hword List.not_mem_nil
  | case2 _ _ _ ih => exact ih hword
  | case3 d _ =>
    rw [List.mem_singleton.1 hword]
    exact List.cons_ne_nil d []
  | case4 d _ _ _ _ ih =>
    rcases List.mem_cons.1 hword with rfl | hword
    · exact List.cons_ne_nil d []
    · exact ih hword
  | case5 d _ _ _ _ hwords ih =>
    rw [hwords] at hword
    rw [List.mem_singleton.1 hword]
    exact List.cons_ne_nil d []
  | case6 d _ _ _ _ next others hwords ih =>
    rw [hwords] at hword ih
    rcases List.mem_cons.1 hword with rfl | hword
    · exact List.cons_ne_nil d next
    · exact ih (List.mem_cons_of_mem next hword)

/-- Words are visible at both ends, as they are in between. -/
theorem framed_of_mem_words {word : Text} (hword : word ∈ words s) : Framed word :=
  .of_visible (ne_nil_of_mem_words hword) fun _ hd => (mem_of_mem_words hword hd).2

/-- The words joined by spaces begin with a word and end with one. -/
theorem framed_collapseBlank (h : s.collapseBlank ≠ []) : Framed s.collapseBlank := by
  have hwords : words s ≠ [] := fun hnone => h (by rw [collapseBlank, hnone]; rfl)
  exact .joinWith hwords (fun _ => framed_of_mem_words) [' ']

/-- Between the words stand spaces, and no other blank character. -/
theorem mem_of_mem_collapseBlank (h : c ∈ s.collapseBlank) :
    c = ' ' ∨ c ∈ s ∧ isBlank c = false := by
  rcases mem_joinWith h with h | ⟨word, hword, h⟩
  · exact .inl (List.mem_singleton.1 h)
  · exact .inr (mem_of_mem_words hword h)

/-- Collapsed text is on one line. -/
theorem newline_not_mem_collapseBlank (s : Text) : '\n' ∉ s.collapseBlank := by
  intro h
  rcases mem_of_mem_collapseBlank h with h | ⟨-, h⟩
  · exact absurd h (by decide)
  · exact absurd h (by decide)

/-- Collapsed text holds no carriage return. -/
theorem return_not_mem_collapseBlank (s : Text) : '\r' ∉ s.collapseBlank := by
  intro h
  rcases mem_of_mem_collapseBlank h with h | ⟨-, h⟩
  · exact absurd h (by decide)
  · exact absurd h (by decide)

/-- Repeating puts nothing new in. -/
theorem mem_of_mem_times {n : Nat} (h : c ∈ times n s) : c ∈ s := by
  obtain ⟨copy, hcopy, h⟩ := List.mem_flatten.1 h
  rwa [(List.mem_replicate.1 hcopy).2] at h

/-! ## Plain texts -/

/-- Whether the text holds neither a backtick nor a newline. -/
def isPlain (s : Text) : Bool :=
  s.all fun c => c != '`' && c != '\n'

/-- A plain text is on one line and holds no backtick. -/
theorem isPlain_iff : s.isPlain ↔ '`' ∉ s ∧ '\n' ∉ s := by
  rw [isPlain, List.all_eq_true]
  constructor
  · intro h
    exact ⟨fun hmem => absurd (h _ hmem) (by decide), fun hmem => absurd (h _ hmem) (by decide)⟩
  · rintro ⟨htick, hnewline⟩ c hc
    rw [Bool.and_eq_true, bne_iff_ne, bne_iff_ne]
    constructor
    · rintro rfl
      exact htick hc
    · rintro rfl
      exact hnewline hc

theorem isPlain_append (hs : s.isPlain) (ht : t.isPlain) : isPlain (s ++ t) := by
  rw [isPlain, List.all_append, ← isPlain, ← isPlain, hs, ht]
  rfl

/-- A text that holds characters of a plain text only is plain. -/
theorem isPlain_of_subset (h : ∀ c ∈ s, c ∈ t) (ht : t.isPlain) : s.isPlain := by
  obtain ⟨htick, hnewline⟩ := isPlain_iff.1 ht
  exact isPlain_iff.2 ⟨fun hmem => htick (h _ hmem), fun hmem => hnewline (h _ hmem)⟩

theorem isPlain_trim (h : s.isPlain) : s.trim.isPlain :=
  isPlain_of_subset (fun _ => mem_of_mem_trim) h

/-! ## Tame texts -/

/-- Whether the text holds neither a backtick nor a carriage return. -/
def isTame (s : Text) : Bool :=
  s.all fun c => c != '`' && c != '\r'

/-- A tame text holds neither a backtick nor a carriage return. -/
theorem isTame_iff : s.isTame ↔ '`' ∉ s ∧ '\r' ∉ s := by
  simp only [isTame, List.all_eq_true, Bool.and_eq_true, bne_iff_ne, ne_eq, forall_and,
    ← List.forall_mem_ne']

theorem isTame_append (hs : s.isTame) (ht : t.isTame) : isTame (s ++ t) := by
  rw [isTame, List.all_append, ← isTame, ← isTame, hs, ht]
  rfl

/-- Digits are tame. -/
theorem isTame_ofNat (n : Nat) : (ofNat n).isTame := by
  have hnot {c : Char} (hc : c.isDigit = false) : c ∉ ofNat n := fun hmem => by
    rw [isDigit_of_mem_ofNat hmem] at hc
    cases hc
  exact isTame_iff.2 ⟨hnot rfl, hnot rfl⟩

/-- A text that holds characters of a tame text only is tame. -/
theorem isTame_of_subset (h : ∀ c ∈ s, c ∈ t) (ht : t.isTame) : s.isTame := by
  obtain ⟨htick, hreturn⟩ := isTame_iff.1 ht
  exact isTame_iff.2 ⟨fun hmem => htick (h _ hmem), fun hmem => hreturn (h _ hmem)⟩

theorem isTame_trim (h : s.isTame) : s.trim.isTame :=
  isTame_of_subset (fun _ => mem_of_mem_trim) h

end Text

end Gemtext
