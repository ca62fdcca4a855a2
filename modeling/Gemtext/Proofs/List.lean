/-!
# List lemmas

What `dropWhile` drops, at the beginning of a list and, on the reversed list, at its end, and what
stands in the pieces of a list that is cut with `splitOn`; and a few facts about lists of numbers.
-/

namespace List

variable {α : Type}

/-- A list is what `dropWhile` drops, all of which satisfies `p`, and what it leaves. -/
theorem exists_append_dropWhile (p : α → Bool) (l : List α) :
    ∃ dropped, l = dropped ++ l.dropWhile p ∧ ∀ a ∈ dropped, p a :=
  ⟨l.takeWhile p, takeWhile_append_dropWhile.symm, fun a ha => all_eq_true.1 all_takeWhile a ha⟩

/-- A list is what `dropWhile` leaves of it from behind, and what it drops there. -/
theorem exists_dropWhile_reverse_append (p : α → Bool) (l : List α) :
    ∃ dropped, l = (l.reverse.dropWhile p).reverse ++ dropped ∧ ∀ a ∈ dropped, p a := by
  obtain ⟨dropped, hl, hp⟩ := exists_append_dropWhile p l.reverse
  refine ⟨dropped.reverse, ?_, fun a ha => hp a (mem_reverse.1 ha)⟩
  rw [← reverse_append, ← hl, reverse_reverse]

/-- The first element that `dropWhile` leaves does not satisfy `p`. -/
theorem not_of_dropWhile_eq_cons {p : α → Bool} {l rest : List α} {a : α}
    (h : l.dropWhile p = a :: rest) : p a = false := by
  have hfirst := head?_dropWhile_not p l
  simpa [h] using hfirst

/-- The pieces hold elements of the list, but not the separator. -/
theorem mem_and_ne_of_mem_splitOn [BEq α] [LawfulBEq α] {sep a : α} {l piece : List α}
    (hp : piece ∈ l.splitOn sep) (ha : a ∈ piece) : a ∈ l ∧ a ≠ sep := by
  induction l generalizing piece with
  | nil => simp_all
  | cons first rest ih =>
    rw [splitOn_cons_eq_if_modifyHead] at hp
    obtain ⟨head, pieces, hrest⟩ := exists_cons_of_ne_nil (splitOn_ne_nil sep rest)
    -- the first element is a separator, or it belongs to the first piece
    by_cases hfirst : first = sep
    · rcases mem_cons.1 (by simpa [hfirst] using hp) with rfl | hp
      · simp at ha
      · exact (ih hp ha).imp_left (mem_cons_of_mem first)
    · rw [hrest] at hp ih
      simp only [beq_iff_eq, hfirst, if_false, modifyHead_cons] at hp
      rcases mem_cons.1 hp with rfl | hp
      · rcases mem_cons.1 ha with rfl | ha
        · exact ⟨mem_cons_self, hfirst⟩
        · exact (ih mem_cons_self ha).imp_left (mem_cons_of_mem first)
      · exact (ih (mem_cons_of_mem head hp) ha).imp_left (mem_cons_of_mem first)

/-- The pieces hold the elements of the list in order, but for the separators. -/
theorem flatMap_flatMap_splitOn [BEq α] [LawfulBEq α] {β : Type} {f : α → List β} {sep : α}
    (hsep : f sep = []) (l : List α) :
    ((l.splitOn sep).flatMap fun piece => piece.flatMap f) = l.flatMap f := by
  induction l with
  | nil => rfl
  | cons first rest ih =>
    rw [splitOn_cons_eq_if_modifyHead, flatMap_cons, ← ih]
    obtain ⟨head, pieces, hrest⟩ := exists_cons_of_ne_nil (splitOn_ne_nil sep rest)
    by_cases hfirst : first = sep
    · simp [hfirst, hsep]
    · simp [hfirst, hrest]

/-- What is picked out of the pieces is what is picked out of the list, if it is no separator. -/
theorem flatMap_filter_splitOn [BEq α] [LawfulBEq α] {q : α → Bool} {sep : α}
    (hsep : q sep = false) (l : List α) :
    ((l.splitOn sep).flatMap fun piece => piece.filter q) = l.filter q := by
  have hpick (l : List α) : l.filter q = l.flatMap fun a => if q a then [a] else [] := by
    induction l with
    | nil => rfl
    | cons a rest ih =>
      rw [filter_cons, flatMap_cons, ih]
      split <;> simp
  simp only [hpick]
  exact flatMap_flatMap_splitOn (by simp [hsep]) l

/-- Two lists in a row are cut as they are one by one, but for the piece that they share. -/
theorem exists_splitOn_append [BEq α] [LawfulBEq α] (sep : α) (l m : List α) :
    ∃ pieces last first others,
      l.splitOn sep = pieces ++ [last] ∧ m.splitOn sep = first :: others ∧
        (l ++ m).splitOn sep = pieces ++ (last ++ first) :: others ∧
        pieces.length = l.count sep := by
  obtain ⟨first, others, hm⟩ := exists_cons_of_ne_nil (splitOn_ne_nil sep m)
  induction l with
  | nil => exact ⟨[], [], first, others, splitOn_nil sep, hm, hm, rfl⟩
  | cons a rest ih =>
    obtain ⟨pieces, last, first', others', hrest, hm', happend, hlength⟩ := ih
    rw [cons_append, splitOn_cons_eq_if_modifyHead, splitOn_cons_eq_if_modifyHead, hrest, happend]
    -- only a separator begins a new piece
    by_cases h : a = sep
    · exact ⟨[] :: pieces, last, first', others', by simp [h], hm', by simp [h],
        by simp [h, hlength]⟩
    · cases pieces with
      | nil => exact ⟨[], a :: last, first', others', by simp [h], hm', by simp [h],
          by simpa [h] using hlength⟩
      | cons piece pieces => exact ⟨(a :: piece) :: pieces, last, first', others', by simp [h], hm',
          by simp [h], by simpa [h] using hlength⟩

/-- The pieces but an empty one at the end, joined again, are the list without a separator at its
end. -/
theorem intercalate_splitOn_dropLast [DecidableEq α] (sep : α) (l : List α) :
    [sep].intercalate
        (if (l.splitOn sep).getLast? = some [] then (l.splitOn sep).dropLast else l.splitOn sep) =
      if l.getLast? = some sep then l.dropLast else l := by
  rcases eq_nil_or_concat l with rfl | ⟨front, a, hl⟩
  · rfl
  · rw [concat_eq_append] at hl
    subst hl
    rw [getLast?_concat, dropLast_concat]
    by_cases ha : a = sep
    · -- the separator at the end is followed by an empty piece
      have hpieces : (front ++ [a]).splitOn sep = front.splitOn sep ++ [[]] := by
        rw [ha, splitOn_append_cons_self, splitOn_nil]
      rw [hpieces, getLast?_concat, dropLast_concat, if_pos rfl, if_pos (congrArg some ha)]
      exact intercalate_splitOn sep
    · -- any other element belongs to the last piece
      obtain ⟨pieces, last, first, others, -, hone, happend, -⟩ :=
        exists_splitOn_append sep front [a]
      rw [splitOn_eq_singleton (by simpa using Ne.symm ha)] at hone
      obtain ⟨rfl, rfl⟩ := cons.inj hone
      have hlast : ((front ++ [a]).splitOn sep).getLast? ≠ some [] := by
        rw [happend, getLast?_concat]
        simp
      rw [if_neg hlast, if_neg (by simpa using ha)]
      exact intercalate_splitOn sep

/-- The pieces are cut out of the list, the first one at its beginning. -/
theorem exists_splitOn_eq_cons [BEq α] [LawfulBEq α] (sep : α) (l : List α) :
    ∃ first others, l.splitOn sep = first :: others ∧ first <+: l ∧
      ∀ piece ∈ others, piece <:+: l := by
  induction l with
  | nil => exact ⟨[], [], splitOn_nil sep, prefix_rfl, by simp⟩
  | cons a rest ih =>
    obtain ⟨first, others, hrest, hfirst, hothers⟩ := ih
    rw [splitOn_cons_eq_if_modifyHead, hrest]
    -- at a separator the first piece ends, and becomes one of the others
    by_cases h : a = sep
    · refine ⟨[], first :: others, by simp [h], nil_prefix, fun piece hpiece => ?_⟩
      rcases mem_cons.1 hpiece with rfl | hpiece
      · exact infix_cons hfirst.isInfix
      · exact infix_cons (hothers piece hpiece)
    · exact ⟨a :: first, others, by simp [h], (prefix_cons_inj a).2 hfirst,
        fun piece hpiece => infix_cons (hothers piece hpiece)⟩

/-- A piece stands in the list as it is. -/
theorem isInfix_of_mem_splitOn [BEq α] [LawfulBEq α] {sep : α} {l piece : List α}
    (h : piece ∈ l.splitOn sep) : piece <:+: l := by
  obtain ⟨first, others, hsplit, hfirst, hothers⟩ := exists_splitOn_eq_cons sep l
  rw [hsplit] at h
  rcases mem_cons.1 h with rfl | h
  · exact hfirst.isInfix
  · exact hothers piece h

/-- What does not hold the element between two lists stands in one of them. -/
theorem isInfix_or_isInfix_of_append_cons {sub a b : List α} {x : α} (hx : x ∉ sub)
    (h : sub <:+: a ++ x :: b) : sub <:+: a ∨ sub <:+: b := by
  obtain ⟨before, after, heq⟩ := h
  -- the element stands behind the sublist, or not
  rcases append_eq_append_iff.1 heq with ⟨rest, ha, -⟩ | ⟨rest, hfront, hrest⟩
  · exact .inl ⟨before, rest, ha.symm⟩
  · cases rest with
    | nil => exact .inl ⟨before, [], by simpa using hfront⟩
    | cons y rest =>
      obtain ⟨rfl, rfl⟩ := cons.inj hrest
      -- it stands within the sublist, or before it
      rcases append_eq_append_iff.1 hfront with ⟨middle, -, hsub⟩ | ⟨middle, -, hmiddle⟩
      · exact (hx (by simp [hsub])).elim
      · cases middle with
        | nil =>
          obtain rfl : _ = sub := hmiddle
          exact (hx mem_cons_self).elim
        | cons z middle =>
          obtain ⟨rfl, rfl⟩ := cons.inj hmiddle
          exact .inr ⟨middle, after, rfl⟩

/-- What is in the joined pieces is in a piece or in what is put between them. -/
theorem mem_flatten_intersperse {sep : List α} {l : List (List α)} {a : α}
    (h : a ∈ (l.intersperse sep).flatten) : a ∈ sep ∨ ∃ piece ∈ l, a ∈ piece := by
  induction l with
  | nil => simp at h
  | cons piece l ih =>
    cases l with
    | nil => exact .inr ⟨piece, mem_cons_self, by simpa using h⟩
    | cons next more =>
      rw [intersperse_cons_cons, flatten_cons, flatten_cons, mem_append, mem_append] at h
      -- the first piece, what stands behind it, and all the others
      rcases h with h | h | h
      · exact .inr ⟨piece, mem_cons_self, h⟩
      · exact .inl h
      · refine (ih h).imp_right ?_
        rintro ⟨other, hother, h⟩
        exact ⟨other, mem_cons_of_mem _ hother, h⟩

/-! ## Traversals that can fail -/

section

variable {ε β : Type} {f : α → Except ε β} {l : List α}

/-- A traversal gives the values that each element gives, and succeeds only so. -/
theorem mapM_eq_ok_map_iff {g : α → β} :
    l.mapM f = .ok (l.map g) ↔ ∀ a ∈ l, f a = .ok (g a) := by
  induction l with
  | nil => simp [pure, Except.pure]
  | cons a rest ih =>
    rw [mapM_cons, forall_mem_cons, ← ih]
    cases hfirst : f a with
    | error e => simp [bind, Except.bind]
    | ok b => cases rest.mapM f <;> simp [bind, Except.bind, pure, Except.pure]

/-- The failure of a traversal is that of one of the elements. -/
theorem exists_of_mapM_eq_error {e : ε} (h : l.mapM f = .error e) : ∃ a ∈ l, f a = .error e := by
  induction l with
  | nil => simp [pure, Except.pure] at h
  | cons a rest ih =>
    rw [mapM_cons] at h
    -- the first error ends the run
    cases hfirst : f a with
    | error e' =>
      obtain rfl : e' = e := by simpa [hfirst, bind, Except.bind] using h
      exact ⟨a, mem_cons_self, hfirst⟩
    | ok b =>
      cases hrest : rest.mapM f with
      | error e' =>
        obtain rfl : e' = e := by simpa [hfirst, hrest, bind, Except.bind] using h
        obtain ⟨a', ha', hf⟩ := ih hrest
        exact ⟨a', mem_cons_of_mem a ha', hf⟩
      | ok bs => simp [hfirst, hrest, bind, Except.bind, pure, Except.pure] at h

end

/-! ## Keys and values -/

section

variable {β : Type} [BEq α] {l : List (α × β)} {a key : α} {b value : β}

theorem lookup_cons_eq_if :
    ((key, value) :: l).lookup a = if a == key then some value else l.lookup a := by
  rw [lookup_cons]
  cases a == key <;> rfl

end

/-! ## Searching -/

/-- The first element for which there is something, with what there is for it. -/
theorem findSome?_map_pair {β : Type} (f : α → Option β) (l : List α) :
    (l.findSome? fun a => (f a).map fun b => (a, b)) =
      (l.find? fun a => (f a).isSome).bind fun a => (f a).map fun b => (a, b) := by
  induction l with
  | nil => rfl
  | cons a l ih =>
    rw [findSome?_cons, find?_cons]
    cases h : f a with
    | none => exact ih
    | some b => simp [h]

/-! ## The last one decides -/

/-- If each step sets what `f` gets or leaves it as it is, then so does a run: the last step that
sets it decides. -/
theorem get_foldl {σ β : Type} {f : σ → Option β} {g : α → Option β} {step : σ → α → σ}
    {l : List α} (hstep : ∀ s, ∀ a ∈ l, f (step s a) = (g a).or (f s)) (s : σ) :
    f (l.foldl step s) = (l.reverse.findSome? g).or (f s) := by
  induction l generalizing s with
  | nil => simp
  | cons a rest ih =>
    rw [foldl_cons, ih fun s b hb => hstep s b (mem_cons_of_mem a hb), hstep s a mem_cons_self,
      reverse_cons, findSome?_append]
    cases rest.reverse.findSome? g <;> cases h : g a <;> simp [h]

/-! ## Positions and numbers -/

/-- A list is what stands at its positions. -/
theorem map_getD_range (as : List α) (a : α) : (range as.length).map (as.getD · a) = as := by
  refine ext_getElem (by simp) fun i hi₁ hi₂ => ?_
  simp [hi₂]

/-- The largest number is no less than what it was looked for from, and than each number. -/
theorem le_foldl_max (ns : List Nat) (start : Nat) :
    start ≤ ns.foldl max start ∧ ∀ n ∈ ns, n ≤ ns.foldl max start := by
  induction ns generalizing start with
  | nil => simp
  | cons m ns ih =>
    obtain ⟨hstart, hmem⟩ := ih (max start m)
    rw [List.foldl_cons]
    refine ⟨by omega, fun n hn => ?_⟩
    rcases mem_cons.1 hn with rfl | hn
    · omega
    · exact hmem n hn

/-- The largest number is one of the numbers, if there is one. -/
theorem foldl_max_mem {ns : List Nat} (h : ns ≠ []) : ns.foldl max 0 ∈ ns := by
  rw [foldl_max]
  cases hmax : ns.max? with
  | none => exact absurd (max?_eq_none_iff.1 hmax) h
  | some n =>
    rw [Option.getD_some, Nat.zero_max]
    exact max?_mem hmax

end List
