import Recast.Text.Blank
import Recast.Text.Word

/-! Texts that are cut in two, and needles in them. A needle without the character at the cut stands on
one side of it, and a needle does not end in a piece that lacks its last character. The functions that
split and trim a text cut it at the place that such a character marks. A text is cut into its lines
behind every line break. -/

namespace Recast.Text

variable {needle first second text : Text} {c : Char}

theorem within_append_left (h : needle.within first = true) (second : Text) :
    needle.within (first ++ second) = true := by
  rw [within_iff_isInfix] at h ⊢
  exact h.trans (List.prefix_append first second).isInfix

theorem within_append_right (h : needle.within second = true) (first : Text) :
    needle.within (first ++ second) = true := by
  rw [within_iff_isInfix] at h ⊢
  exact h.trans (List.suffix_append first second).isInfix

theorem cut_of_notin {front back : Text} (hc : c ∉ needle)
    (heq : first ++ c :: second = front ++ (needle ++ back)) :
    (∃ gap, first = front ++ (needle ++ gap) ∧ back = gap ++ c :: second) ∨
      ∃ gap, front = first ++ c :: gap ∧ second = gap ++ (needle ++ back) := by
  rcases List.append_eq_append_iff.mp heq with ⟨gap, rfl, hgap⟩ | ⟨gap, rfl, hgap⟩
  · cases gap with
    | nil =>
      cases needle with
      | nil => exact .inl ⟨[], by simp, hgap.symm⟩
      | cons d needle => exact absurd (by simp [(List.cons.inj hgap).1]) hc
    | cons d gap =>
      obtain ⟨rfl, rfl⟩ := List.cons.inj hgap
      exact .inr ⟨gap, rfl, rfl⟩
  · rcases List.append_eq_append_iff.mp hgap with ⟨more, rfl, hmore⟩ | ⟨more, rfl, hmore⟩
    · exact .inl ⟨more, rfl, hmore⟩
    · cases more with
      | nil => exact .inl ⟨[], by simp, by simpa using hmore.symm⟩
      | cons d more => exact absurd (by simp [(List.cons.inj hmore).1]) hc

theorem within_cut (hc : c ∉ needle) (h : needle.within (first ++ c :: second) = true) :
    needle.within first = true ∨ needle.within second = true := by
  simp only [within_iff_isInfix] at h ⊢
  obtain ⟨front, back, heq⟩ := h
  rw [List.append_assoc] at heq
  rcases cut_of_notin hc heq.symm with ⟨gap, rfl, -⟩ | ⟨gap, -, rfl⟩
  · exact .inl ⟨front, gap, by simp⟩
  · exact .inr ⟨gap, back, by simp⟩

theorem concat_of_append {left right front : Text} {last : Char} (hne : right ≠ [])
    (heq : left ++ right = front ++ [last]) :
    ∃ init, right = init ++ [last] ∧ front = left ++ init := by
  rcases List.eq_nil_or_concat right with rfl | ⟨init, d, rfl⟩
  · exact absurd rfl hne
  · rw [List.concat_eq_append, ← List.append_assoc] at heq
    obtain ⟨hfront, hlast⟩ := List.append_inj' heq rfl
    obtain rfl : d = last := (List.cons.inj hlast).1
    exact ⟨init, List.concat_eq_append, hfront.symm⟩

theorem within_trim (hlast : needle.getLast? = some c) (hc : c ∉ second)
    (h : needle.within (first ++ second) = true) : needle.within first = true := by
  simp only [within_iff_isInfix] at h ⊢
  obtain ⟨before, after, heq⟩ := h
  rcases List.append_eq_append_iff.mp heq with ⟨gap, rfl, -⟩ | ⟨gap, hgap, rfl⟩
  · exact ⟨before, gap, rfl⟩
  · by_cases hne : gap = []
    · rw [hne, List.append_nil] at hgap
      exact ⟨before, [], by rw [List.append_nil, hgap]⟩
    · obtain ⟨init, rfl⟩ := List.getLast?_eq_some_iff.mp hlast
      rw [← List.append_assoc] at hgap
      obtain ⟨more, rfl, -⟩ := concat_of_append hne hgap.symm
      exact absurd (by simp) hc

theorem notin_of_class {p : Char → Bool} (h : ∀ d ∈ first, p d = true) (hc : p c = false) :
    c ∉ first := by
  intro hmem
  rw [h c hmem] at hc
  cases hc

/-- A text is cut in one way only before the first character that lies outside a class. -/
theorem append_cons_inj {p : Char → Bool} {first second left right : Text} {c d : Char}
    (h₁ : ∀ x ∈ first, p x = true) (hc : p c = false) (h₂ : ∀ x ∈ second, p x = true)
    (hd : p d = false) (heq : first ++ c :: left = second ++ d :: right) :
    first = second ∧ c = d ∧ left = right := by
  induction first generalizing second with
  | nil =>
    cases second with
    | nil => exact ⟨rfl, List.cons.inj heq⟩
    | cons x second =>
      obtain ⟨rfl, _⟩ := List.cons.inj heq
      rw [h₂ c List.mem_cons_self] at hc
      cases hc
  | cons x first ih =>
    cases second with
    | nil =>
      obtain ⟨rfl, _⟩ := List.cons.inj heq
      rw [h₁ x List.mem_cons_self] at hd
      cases hd
    | cons y second =>
      obtain ⟨rfl, htail⟩ := List.cons.inj heq
      obtain ⟨rfl, hcd⟩ := ih (fun z hz => h₁ z (List.mem_cons_of_mem _ hz))
        (fun z hz => h₂ z (List.mem_cons_of_mem _ hz)) htail
      exact ⟨rfl, hcd⟩

theorem append_mark_inj {first second left right : Text} {mark : Char} (h₁ : mark ∉ first)
    (h₂ : mark ∉ second) (heq : first ++ mark :: left = second ++ mark :: right) :
    first = second ∧ left = right := by
  have other {text : Text} (h : mark ∉ text) : ∀ x ∈ text, (x != mark) = true := by
    intro x hx
    exact bne_iff_ne.mpr fun he => h (he ▸ hx)
  obtain ⟨hfirst, -, hleft⟩ := append_cons_inj (other h₁) (bne_self_eq_false mark) (other h₂)
    (bne_self_eq_false mark) heq
  exact ⟨hfirst, hleft⟩

theorem append_head_inj {first second left right : Text} {mark : Char} (h₁ : mark ∉ first)
    (h₂ : mark ∉ second) (hleft : left.head? = some mark) (hright : right.head? = some mark)
    (heq : first ++ left = second ++ right) : first = second ∧ left = right := by
  obtain ⟨left, rfl⟩ := List.head?_eq_some_iff.mp hleft
  obtain ⟨right, rfl⟩ := List.head?_eq_some_iff.mp hright
  obtain ⟨rfl, rfl⟩ := append_mark_inj h₁ h₂ heq
  exact ⟨rfl, rfl⟩

theorem prefix_of_notin {first rest second more : Text} {mark : Char} (h : mark ∉ first)
    (heq : first ++ rest = second ++ mark :: more) : first <+: second := by
  rcases List.append_eq_append_iff.mp heq with ⟨gap, rfl, -⟩ | ⟨gap, rfl, hgap⟩
  · exact List.prefix_append first gap
  · cases gap with
    | nil => simp
    | cons d gap =>
      obtain ⟨rfl, -⟩ := List.cons.inj hgap
      exact absurd (by simp) h

theorem suffix_of_notin {front last left right : Text} {mark : Char} (h : mark ∉ right)
    (heq : front ++ mark :: last = left ++ right) : right <:+ last := by
  rcases List.suffix_or_suffix_of_suffix ⟨front, heq⟩ (List.suffix_append left right) with
    hmark | hright
  · exact absurd (hmark.subset List.mem_cons_self) h
  · rcases List.suffix_cons_iff.mp hright with rfl | hright
    · exact absurd List.mem_cons_self h
    · exact hright

theorem cut_cut {first second left right : Text} {mark other : Char} (hne : mark ≠ other)
    (heq : first ++ mark :: second = left ++ other :: right) :
    (∃ gap, left = first ++ mark :: gap ∧ second = gap ++ other :: right) ∨
      ∃ gap, first = left ++ other :: gap ∧ right = gap ++ mark :: second := by
  rcases List.append_eq_append_iff.mp heq with ⟨gap, rfl, hgap⟩ | ⟨gap, rfl, hgap⟩
  · cases gap with
    | nil => exact absurd (List.cons.inj hgap).1 hne
    | cons d gap =>
      obtain ⟨rfl, rfl⟩ := List.cons.inj hgap
      exact .inl ⟨gap, rfl, rfl⟩
  · cases gap with
    | nil => exact absurd (List.cons.inj hgap).1.symm hne
    | cons d gap =>
      obtain ⟨rfl, rfl⟩ := List.cons.inj hgap
      exact .inr ⟨gap, rfl, rfl⟩

def cutsAt (c : Char) : Text → List (Text × Text)
  | [] => []
  | d :: rest => (if d = c then [([], rest)] else []) ++
      (cutsAt c rest).map fun cut => (d :: cut.1, cut.2)

theorem mem_cutsAt {left right : Text} :
    (left, right) ∈ cutsAt c text ↔ text = left ++ c :: right := by
  induction text generalizing left with
  | nil => simp [cutsAt]
  | cons d rest ih =>
    rw [cutsAt, List.mem_append, List.mem_map]
    cases left with
    | nil =>
      by_cases hd : d = c
      · simp [hd, eq_comm]
      · simp [hd]
    | cons e left =>
      constructor
      · intro hcase
        rcases hcase with hhere | ⟨⟨front, back⟩, hcut, heq⟩
        · split at hhere
          · simp at hhere
          · cases hhere
        · obtain ⟨hfront, rfl⟩ := Prod.mk.inj heq
          obtain ⟨rfl, rfl⟩ := List.cons.inj hfront
          rw [ih.mp hcut]
          rfl
      · intro heq
        obtain ⟨rfl, hrest⟩ := List.cons.inj heq
        exact .inr ⟨(left, right), ih.mpr hrest, rfl⟩

/-- In a text that is cut at a character, a needle stands on one side of it or over it. -/
theorem within_cut_iff :
    needle.within (first ++ c :: second) = true ↔ needle.within first = true ∨
      needle.within second = true ∨
        ∃ cut ∈ cutsAt c needle, cut.1 <:+ first ∧ cut.2 <+: second := by
  simp only [within_iff_isInfix, Prod.exists, mem_cutsAt]
  constructor
  · intro hin
    rcases List.infix_append_iff_ne_nil.mp hin with
      hfirst | hsecond | ⟨left, right, -, hne, rfl, hleft, hright⟩
    · exact .inl hfirst
    · rcases List.infix_cons_iff.mp hsecond with hbegins | hsecond
      · cases needle with
        | nil => exact .inl List.nil_infix
        | cons d needle =>
          obtain ⟨rfl, hmore⟩ := List.cons_prefix_cons.mp hbegins
          exact .inr (.inr ⟨[], needle, rfl, List.nil_suffix, hmore⟩)
      · exact .inr (.inl hsecond)
    · obtain ⟨d, right, rfl⟩ := List.exists_cons_of_ne_nil hne
      obtain ⟨rfl, hmore⟩ := List.cons_prefix_cons.mp hright
      exact .inr (.inr ⟨left, right, rfl, hleft, hmore⟩)
  · intro hcase
    rcases hcase with hfirst | hsecond | ⟨left, right, rfl, ⟨front, rfl⟩, back, rfl⟩
    · exact hfirst.trans (List.prefix_append _ _).isInfix
    · exact hsecond.trans (List.suffix_append_of_suffix (List.suffix_cons c second)).isInfix
    · exact ⟨front, back, by simp⟩

/-- Whether a text begins with one that ends with its only mark can be seen up to the mark. -/
theorem prefix_cut_iff (hc : c ∉ needle) :
    needle ++ [c] <+: first ++ c :: second ↔ needle ++ [c] <+: first ++ [c] := by
  constructor
  · intro hbegins
    obtain ⟨more, hmore⟩ := hbegins
    have hcut : needle ++ c :: more = first ++ c :: second := by simpa using hmore
    obtain ⟨gap, rfl⟩ := prefix_of_notin hc hcut
    cases gap with
    | nil => simp
    | cons d gap =>
      obtain ⟨rfl, -⟩ := List.cons.inj (List.append_cancel_left (hcut.trans (List.append_assoc _ _ _)))
      exact ⟨gap ++ [c], by simp⟩
  · intro hbegins
    exact hbegins.trans ⟨second, by simp⟩

theorem splitBefore?_eq_some {needle text before rest : Text}
    (h : splitBefore? needle text = some (before, rest)) : text = before ++ rest ∧ needle <+: rest := by
  induction text generalizing before with
  | nil =>
    rw [splitBefore?] at h
    split at h
    next hempty =>
      obtain ⟨rfl, rfl⟩ := Prod.mk.inj (Option.some.inj h)
      rw [List.isEmpty_iff.mp hempty]
      exact ⟨rfl, List.nil_prefix⟩
    next => cases h
  | cons c text ih =>
    rw [splitBefore?] at h
    split at h
    next hbegins =>
      obtain ⟨rfl, rfl⟩ := Prod.mk.inj (Option.some.inj h)
      exact ⟨rfl, List.isPrefixOf_iff_prefix.mp hbegins⟩
    next =>
      obtain ⟨⟨front, back⟩, hcut, heq⟩ := Option.map_eq_some_iff.mp h
      obtain ⟨rfl, rfl⟩ := Prod.mk.inj heq
      obtain ⟨rfl, hprefix⟩ := ih hcut
      exact ⟨rfl, hprefix⟩

theorem splitBefore?_first {needle text before rest front back : Text}
    (h : splitBefore? needle text = some (before, rest)) (heq : text = front ++ (needle ++ back)) :
    before.length ≤ front.length := by
  induction text generalizing before front with
  | nil =>
    obtain ⟨rfl, -⟩ := List.append_eq_nil_iff.mp (splitBefore?_eq_some h).1.symm
    exact Nat.zero_le _
  | cons c text ih =>
    rw [splitBefore?] at h
    split at h
    next =>
      obtain ⟨rfl, -⟩ := Prod.mk.inj (Option.some.inj h)
      exact Nat.zero_le _
    next hbegins =>
      obtain ⟨⟨first, last⟩, hcut, hparts⟩ := Option.map_eq_some_iff.mp h
      obtain ⟨rfl, rfl⟩ := Prod.mk.inj hparts
      cases front with
      | nil => exact absurd (List.isPrefixOf_iff_prefix.mpr ⟨back, heq.symm⟩) hbegins
      | cons d front =>
        obtain ⟨-, rfl⟩ := List.cons.inj heq
        exact Nat.succ_le_succ (ih hcut rfl)

theorem splitBefore?_eq_none_iff {needle text : Text} :
    splitBefore? needle text = none ↔ needle.within text = false := by
  induction text with
  | nil => cases needle <;> simp [splitBefore?, within]
  | cons c rest ih =>
    rw [splitBefore?, within, Bool.or_eq_false_iff, ← ih]
    split
    next hbegins => simp [hbegins]
    next hbegins => simp [hbegins]

theorem mark_notin_before {mark : Char} {text before rest : Text}
    (h : splitBefore? [mark] text = some (before, rest)) : mark ∉ before := by
  intro hmem
  obtain ⟨front, back, rfl⟩ := List.append_of_mem hmem
  obtain ⟨rfl, -⟩ := splitBefore?_eq_some h
  have hmark : front ++ mark :: back ++ rest = front ++ ([mark] ++ (back ++ rest)) := by simp
  have hfirst := splitBefore?_first h hmark
  rw [List.length_append, List.length_cons] at hfirst
  omega

theorem mark_notin_of_splitBefore? {mark : Char} {text : Text}
    (h : splitBefore? [mark] text = none) : mark ∉ text := by
  intro hmem
  obtain ⟨front, back, rfl⟩ := List.append_of_mem hmem
  have hwithin : within [mark] (front ++ mark :: back) = true :=
    (within_iff_isInfix _ _).mpr ⟨front, back, by simp⟩
  rw [splitBefore?_eq_none_iff, hwithin] at h
  cases h

theorem splitOnce?_eq_some {needle text before after : Text}
    (h : splitOnce? needle text = some (before, after)) : text = before ++ (needle ++ after) := by
  obtain ⟨⟨front, rest⟩, hcut, heq⟩ := Option.map_eq_some_iff.mp h
  obtain ⟨rfl, rfl⟩ := Prod.mk.inj heq
  obtain ⟨rfl, more, rfl⟩ := splitBefore?_eq_some hcut
  rw [List.drop_left]

theorem splitOnce?_eq_some_iff {needle text before after : Text} :
    splitOnce? needle text = some (before, after) ↔ text = before ++ (needle ++ after) ∧
      ∀ front back, text = front ++ (needle ++ back) → before.length ≤ front.length := by
  have first {before after : Text} (h : splitOnce? needle text = some (before, after)) :
      ∀ front back, text = front ++ (needle ++ back) → before.length ≤ front.length := by
    obtain ⟨⟨lead, rest⟩, hcut, heq⟩ := Option.map_eq_some_iff.mp h
    obtain ⟨rfl, -⟩ := Prod.mk.inj heq
    exact fun front back => splitBefore?_first hcut
  constructor
  · exact fun h => ⟨splitOnce?_eq_some h, first h⟩
  · rintro ⟨htext, hfirst⟩
    cases h : splitOnce? needle text with
    | none =>
      have hwithin : needle.within text = true :=
        (within_iff_isInfix _ _).mpr ⟨before, after, by rw [htext, List.append_assoc]⟩
      rw [splitOnce?, Option.map_eq_none_iff, splitBefore?_eq_none_iff, hwithin] at h
      cases h
    | some cut =>
      obtain ⟨before', after'⟩ := cut
      have htext' := splitOnce?_eq_some h
      have hlength := Nat.le_antisymm (hfirst before' after' htext') (first h before after htext)
      obtain ⟨rfl, hrest⟩ := List.append_inj (htext.symm.trans htext') hlength
      rw [List.append_cancel_left hrest]

theorem splitBefore?_of_notin {mark : Char} {first : Text} (h : mark ∉ first) (needle rest : Text) :
    splitBefore? (mark :: needle) (first ++ (mark :: (needle ++ rest))) =
      some (first, mark :: (needle ++ rest)) := by
  induction first with
  | nil => simp [splitBefore?]
  | cons d first ih =>
    obtain ⟨hd, hfirst⟩ : mark ≠ d ∧ mark ∉ first := by simpa using h
    simp [splitBefore?, hd, ih hfirst]

theorem splitOnce?_of_notin {mark : Char} {first : Text} (h : mark ∉ first) (needle rest : Text) :
    splitOnce? (mark :: needle) (first ++ (mark :: (needle ++ rest))) = some (first, rest) := by
  simp [splitOnce?, splitBefore?_of_notin h]

theorem splitLast?_of_notin {mark : Char} (front : Text) {last : Text} (h : mark ∉ last) :
    splitLast? mark (front ++ mark :: last) = some (front, last) := by
  have hnone : splitLast? mark last = none := by
    induction last with
    | nil => rfl
    | cons d last ih =>
      obtain ⟨hd, hlast⟩ : mark ≠ d ∧ mark ∉ last := by simpa using h
      simp [splitLast?, ih hlast, Ne.symm hd]
  induction front with
  | nil => simp [splitLast?, hnone]
  | cons d front ih => simp [splitLast?, ih]

theorem dropEndWhile_append (p : Char → Bool) (text : Text) :
    ∃ trail, text = dropEndWhile p text ++ trail ∧ ∀ c ∈ trail, p c = true := by
  refine ⟨(text.reverse.takeWhile p).reverse, ?_, ?_⟩
  · rw [dropEndWhile, ← List.reverse_append, List.takeWhile_append_dropWhile, List.reverse_reverse]
  · intro c hc
    exact List.all_eq_true.mp List.all_takeWhile c (List.mem_reverse.mp hc)

theorem getLast?_dropEndWhile_ne {p : Char → Bool} (text : Text) (hc : p c = true) :
    (dropEndWhile p text).getLast? ≠ some c := by
  rw [dropEndWhile, List.getLast?_reverse]
  intro hhead
  have hdropped := List.head?_dropWhile_not p text.reverse
  rw [hhead] at hdropped
  simp [hc] at hdropped

section

variable {α : Type} {p : α → Bool} {front rest : List α} (hfront : ∀ a ∈ front, p a = true)
  (hrest : ∀ a ∈ rest.head?, p a = false)

include hfront hrest

theorem takeWhile_append : (front ++ rest).takeWhile p = front := by
  rw [List.takeWhile_append_of_pos hfront]
  cases rest with
  | nil => exact List.append_nil front
  | cons a rest => simp [hrest a rfl]

theorem dropWhile_append : (front ++ rest).dropWhile p = rest := by
  rw [List.dropWhile_append_of_pos hfront]
  cases rest with
  | nil => rfl
  | cons a rest => simp [hrest a rfl]

end

theorem dropEndWhile_append_of_last {p : Char → Bool} {front trail : Text}
    (hfront : ∀ c ∈ front.getLast?, p c = false) (htrail : ∀ c ∈ trail, p c = true) :
    dropEndWhile p (front ++ trail) = front := by
  have hhead : ∀ c ∈ front.reverse.head?, p c = false := by rwa [List.head?_reverse]
  have hreversed : ∀ c ∈ trail.reverse, p c = true := fun c hc => htrail c (List.mem_reverse.mp hc)
  rw [dropEndWhile, List.reverse_append, dropWhile_append hreversed hhead, List.reverse_reverse]

theorem stripStart?_append (lead rest : Text) : stripStart? lead (lead ++ rest) = some rest := by
  simp [stripStart?]

theorem mem_of_inRanges {ranges : List (Nat × Nat)} {n : Nat} (h : inRanges ranges n = true) :
    ∃ range ∈ ranges, range.1 ≤ n ∧ n ≤ range.2 := by
  induction ranges with
  | nil => cases h
  | cons range ranges ih =>
    obtain ⟨first, last⟩ := range
    rw [inRanges] at h
    split at h
    · cases h
    next hfirst =>
      rw [Bool.or_eq_true, decide_eq_true_eq] at h
      rcases h with hlast | hmore
      · exact ⟨(first, last), List.mem_cons_self, by simpa using hfirst, hlast⟩
      · obtain ⟨range, hmem, hbounds⟩ := ih hmore
        exact ⟨range, List.mem_cons_of_mem _ hmem, hbounds⟩

theorem isWord_of_isBlank {c : Char} (h : isBlank c = true) : isWord c = false := by
  have hall : ∀ range ∈ blankRanges, ∀ k ≤ range.2 - range.1,
      isWord (Char.ofNat (range.1 + k)) = false := by
    decide +kernel
  obtain ⟨range, hrange, hfirst, hlast⟩ := mem_of_inRanges h
  have hc := hall range hrange (c.toNat - range.1) (by omega)
  rw [Nat.add_sub_cancel' hfirst, Char.ofNat_toNat] at hc
  exact hc

section

variable {line : Text}

def IsLine (line : Text) : Prop := ∃ body, '\n' ∉ body ∧ line = body ++ ['\n']

theorem IsLine.cons (h : IsLine line) (hc : c ≠ '\n') : IsLine (c :: line) := by
  obtain ⟨body, hbody, rfl⟩ := h
  exact ⟨c :: body, List.not_mem_cons_of_ne_of_not_mem hc.symm hbody, rfl⟩

theorem IsLine.getLast? (h : IsLine line) : line.getLast? = some '\n' := by
  obtain ⟨body, -, rfl⟩ := h
  simp

theorem lines_append (h : IsLine line) (text : Text) : lines (line ++ text) = line :: lines text := by
  obtain ⟨body, hbody, rfl⟩ := h
  induction body with
  | nil => rfl
  | cons c body ih =>
    obtain ⟨hc, hbody⟩ := not_or.mp (mt List.mem_cons.mpr hbody)
    rw [List.cons_append, List.cons_append, lines, if_neg (Ne.symm hc), ih hbody]

theorem lines_flatten {all : List Text} (h : ∀ line ∈ all, IsLine line) : lines all.flatten = all := by
  induction all with
  | nil => rfl
  | cons line all ih =>
    rw [List.flatten_cons, lines_append (h line List.mem_cons_self),
      ih fun line hline => h line (List.mem_cons_of_mem _ hline)]

theorem isLine_of_mem_lines (h : line ∈ lines text) : IsLine line ∨ line ≠ [] ∧ '\n' ∉ line := by
  induction text generalizing line with
  | nil => cases h
  | cons c text ih =>
    rw [lines] at h
    split at h
    next =>
      rcases List.mem_cons.mp h with rfl | h
      · exact .inl ⟨[], List.not_mem_nil, rfl⟩
      · exact ih h
    next hc =>
      split at h
      next =>
        obtain rfl := List.mem_singleton.mp h
        exact .inr ⟨List.cons_ne_nil _ _, by simpa using Ne.symm hc⟩
      next first more hlines =>
        rw [hlines] at ih
        rcases List.mem_cons.mp h with rfl | h
        · refine (ih List.mem_cons_self).imp (fun hfirst => hfirst.cons hc) fun hfirst => ?_
          exact ⟨List.cons_ne_nil _ _, List.not_mem_cons_of_ne_of_not_mem (Ne.symm hc) hfirst.2⟩
        · exact ih (List.mem_cons_of_mem _ h)

theorem mem_of_mem_lines (h : line ∈ lines text) (hc : c ∈ line) : c ∈ text := by
  rw [← flatten_lines text]
  exact List.mem_flatten.mpr ⟨line, h, hc⟩

/-- A line that is shown without its line break and given another one is shown as it is, if it has no
carriage return. -/
theorem chomp_append (h : IsLine line) (hreturn : '\r' ∉ line) : chomp line ++ ['\n'] = line := by
  have hlast := h.getLast?
  obtain ⟨body, -, rfl⟩ := h
  have hbody : body.getLast? ≠ some '\r' := fun hbody =>
    hreturn (List.mem_append_left _ (List.mem_of_getLast? hbody))
  rw [chomp, stripLast?, if_pos hlast, List.dropLast_concat]
  simp only [stripLast?, if_neg hbody, Option.getD_none]

end

end Recast.Text
