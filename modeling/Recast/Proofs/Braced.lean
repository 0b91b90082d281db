import Recast.Proofs.RuleSet

/-! Items that begin with a header and end with the brace that closes the first one opened. As with
matches of a pattern, replacing all items is one walk over the text: where a header matches and its
body is closed, the item is replaced and passed over. A header whose body is not closed ends the
walk. -/

namespace Recast

namespace Matcher

theorem closing?_eq (text : Text) : ∀ depth pos : Nat,
    closing? depth pos text = (closing? depth 0 text).map (· + pos) := by
  induction text with
  | nil => exact fun _ _ => rfl
  | cons c rest ih =>
    intro depth pos
    have next (depth : Nat) : closing? depth (pos + 1) rest =
        (closing? depth (0 + 1) rest).map (· + pos) := by
      rw [ih depth (pos + 1), ih depth (0 + 1), Option.map_map]
      congr 1
      funext n
      simp only [Function.comp]
      omega
    unfold closing?
    split
    · exact next (depth + 1)
    · split
      · split
        · exact next 0
        · simp [Nat.add_comm]
        · exact next _
      · exact next depth

theorem closing?_of_append {text : Text} (tail : Text) : ∀ {depth pos stop : Nat},
    closing? depth pos text = some stop → closing? depth pos (text ++ tail) = some stop := by
  induction text with
  | nil =>
    intro depth pos stop h
    cases h
  | cons c rest ih =>
    intro depth pos stop h
    rw [List.cons_append]
    unfold closing? at h ⊢
    by_cases hopen : c = '\x7b'
    · rw [if_pos hopen] at h ⊢
      exact ih h
    · rw [if_neg hopen] at h ⊢
      by_cases hclose : c = '\x7d'
      · rw [if_pos hclose] at h ⊢
        rcases depth with _ | _ | depth
        · exact ih h
        · exact h
        · exact ih h
      · rw [if_neg hclose] at h ⊢
        exact ih h

theorem closing?_append {plain : Text} (h : ∀ c ∈ plain, c ≠ '\x7b' ∧ c ≠ '\x7d') (tail : Text) :
    ∀ depth pos : Nat, closing? depth pos (plain ++ tail) =
      closing? depth (pos + plain.length) tail := by
  induction plain with
  | nil => exact fun _ _ => rfl
  | cons c rest ih =>
    intro depth pos
    obtain ⟨hopen, hclose⟩ := h c List.mem_cons_self
    have hnext : pos + 1 + rest.length = pos + (c :: rest).length := by
      rw [List.length_cons]
      omega
    rw [List.cons_append, closing?.eq_def]
    simp only [if_neg hopen, if_neg hclose]
    rw [ih (fun d hd => h d (List.mem_cons_of_mem _ hd)), hnext]

end Matcher

namespace Pattern

variable {header : Pattern} {new : Text → Text}

/-- All items from a place on. `skip` characters are passed over first. -/
def itemsFrom (header : Pattern) : Nat → Nat → Option Char → Text → List Span
  | _, _, _, [] => []
  | skip + 1, pos, _, c :: rest => header.itemsFrom skip (pos + 1) (some c) rest
  | 0, pos, prev, c :: rest =>
    match header.width? prev (c :: rest) with
    | none => header.itemsFrom 0 (pos + 1) (some c) rest
    | some n =>
      match Matcher.closing? 0 0 (c :: rest) with
      | none => []
      | some m => ⟨pos, pos + m⟩ :: header.itemsFrom (max m n - 1) (pos + 1) (some c) rest

/-- The text with every item replaced. `skip` characters are left out first; where a header reaches
beyond its item, what it covers there is kept. -/
def rewriteItems (header : Pattern) (new : Text → Text) : Nat → Option Char → Text → Text
  | _, _, [] => []
  | skip + 1, _, c :: rest => header.rewriteItems new skip (some c) rest
  | 0, prev, c :: rest =>
    match header.width? prev (c :: rest) with
    | none => c :: header.rewriteItems new 0 (some c) rest
    | some n =>
      match Matcher.closing? 0 0 (c :: rest) with
      | none => c :: rest
      | some m =>
        new ((c :: rest).take m) ++ ((c :: rest).take n).drop m ++
          header.rewriteItems new (max m n - 1) (some c) rest

theorem bracedProbe_eq (hs : header.settled = true) (behind : Bool) (pos : Nat) (prev : Option Char)
    (rest : Text) :
    Matcher.bracedProbe header.automaton behind ⟨pos, prev, rest⟩ =
      match header.leftmost? pos prev rest with
      | none => .halt
      | some found =>
        match Matcher.closing? 0 found.span.start (rest.drop (found.span.start - pos)) with
        | none => .halt
        | some stop => .hit ⟨found.span.start, stop⟩ (max stop found.span.stop) := by
  rewrite [Matcher.bracedProbe, Automaton.search?_eq_leftmost? hs]
  rfl

section

variable (hs : header.settled = true) (hc : header.consumes = true)

include hs hc

theorem sweepFrom_braced_of_no_match {pos : Nat} {prev : Option Char} {c : Char} {rest : Text}
    (behind : Bool) (hm : header.matchAt? ⟨pos, prev, c :: rest⟩ = none) :
    sweepFrom (Matcher.bracedProbe header.automaton) 0 behind pos prev (c :: rest) =
      sweepFrom (Matcher.bracedProbe header.automaton) 0 false (pos + 1) (some c) rest := by
  rw [sweepFrom, bracedProbe_eq hs, leftmost?, hm, Option.none_or]
  cases hl : header.leftmost? (pos + 1) (some c) rest with
  | none => cases rest <;> simp [sweepFrom, bracedProbe_eq hs, hl]
  | some found =>
    have hb := leftmost?_bounds hc rest hl
    cases rest with
    | nil =>
      rw [leftmost?, matchAt?_nil hc] at hl
      cases hl
    | cons d rest =>
      have hdrop : (c :: d :: rest).drop (found.span.start - pos) =
          (d :: rest).drop (found.span.start - (pos + 1)) := by
        have : found.span.start - pos = (found.span.start - (pos + 1)) + 1 := by omega
        rw [this, List.drop_succ_cons]
      simp only [sweepFrom, bracedProbe_eq hs, hl, hdrop]
      cases hclose : Matcher.closing? 0 found.span.start
          ((d :: rest).drop (found.span.start - (pos + 1))) with
      | none => rfl
      | some stop =>
        have hstop : ¬ max stop found.span.stop ≤ pos := by omega
        have hstop' : ¬ max stop found.span.stop ≤ pos + 1 := by omega
        have hskip : max stop found.span.stop - pos - 1 =
            (max stop found.span.stop - (pos + 1) - 1) + 1 := by omega
        simp only [if_neg hstop, if_neg hstop', hskip, sweepFrom]

theorem sweepFrom_eq_itemsFrom (rest : Text) : ∀ (skip : Nat) (behind : Bool) (pos : Nat)
    (prev : Option Char),
    sweepFrom (Matcher.bracedProbe header.automaton) skip behind pos prev rest =
      header.itemsFrom skip pos prev rest := by
  induction rest with
  | nil =>
    intro skip behind pos prev
    cases skip with
    | zero => simp [sweepFrom, itemsFrom, bracedProbe_eq hs, leftmost?, matchAt?_nil hc]
    | succ skip => rfl
  | cons c rest ih =>
    intro skip behind pos prev
    cases skip with
    | succ skip => exact ih skip behind (pos + 1) (some c)
    | zero =>
      cases hm : header.matchAt? ⟨pos, prev, c :: rest⟩ with
      | none =>
        have hw := (width?_eq_none_iff pos prev (c :: rest)).mpr hm
        rw [sweepFrom_braced_of_no_match hs hc behind hm, ih, itemsFrom, hw]
      | some found =>
        obtain ⟨n, hw, hspan⟩ := width?_of_matchAt? hm
        rw [sweepFrom, bracedProbe_eq hs, leftmost?, itemsFrom, hm, Option.some_or, hw]
        simp only [hspan, Nat.sub_self, List.drop_zero]
        rw [Matcher.closing?_eq]
        cases hclose : Matcher.closing? 0 0 (c :: rest) with
        | none => rfl
        | some m =>
          have hb := Matcher.closing?_bounds hclose
          have hstop : ¬ max (pos + m) (pos + n) ≤ pos := by omega
          have hskip : max (pos + m) (pos + n) - pos - 1 = max m n - 1 := by omega
          simp only [Option.map_some, Nat.add_comm m pos, if_neg hstop, hskip, ih]

end

theorem itemsFrom_bounds (rest : Text) :
    ∀ (skip pos : Nat) (prev : Option Char), ∀ span ∈ header.itemsFrom skip pos prev rest,
      pos + skip ≤ span.start ∧ span.start < span.stop := by
  induction rest with
  | nil =>
    intro skip pos prev span hspan
    simp [itemsFrom] at hspan
  | cons c rest ih =>
    intro skip pos prev span hspan
    cases skip with
    | succ skip =>
      have := ih skip (pos + 1) (some c) span hspan
      omega
    | zero =>
      unfold itemsFrom at hspan
      split at hspan
      · have := ih 0 (pos + 1) (some c) span hspan
        omega
      · split at hspan
        · simp at hspan
        · next m hclose =>
          have hb := Matcher.closing?_bounds hclose
          rcases List.mem_cons.mp hspan with rfl | hspan
          · simp only
            omega
          · have := ih _ (pos + 1) (some c) span hspan
            omega

def spanEdits (new : Text → Text) (text : Text) (spans : List Span) : List (Span × Text) :=
  spans.map fun span => (span, new (span.slice text))

end Pattern

theorem spliceFrom_append {kept rest : Text} {edits : List (Span × Text)} :
    ∀ {pos : Nat}, (∀ edit ∈ edits, pos + kept.length ≤ edit.1.start ∧
      edit.1.start ≤ edit.1.stop) →
    spliceFrom pos (kept ++ rest) edits = kept ++ spliceFrom (pos + kept.length) rest edits := by
  induction kept with
  | nil => exact fun _ => rfl
  | cons c kept ih =>
    intro pos h
    simp only [List.length_cons] at h
    have hnext : pos + 1 + kept.length = pos + (c :: kept).length := by
      rw [List.length_cons]
      omega
    rw [List.cons_append, spliceFrom_cons, ih, hnext, List.cons_append]
    · intro edit he
      have := h edit he
      omega
    · intro edit he
      have := h edit he
      omega

namespace Pattern

variable {header : Pattern} {new : Text → Text}

theorem drop_eq_append (text : Text) {m : Nat} (n : Nat) (hm : m ≤ text.length) :
    text.drop m = (text.take n).drop m ++ text.drop (max m n) := by
  by_cases hle : n ≤ m
  · have hnil : (text.take n).drop m = [] :=
      List.drop_eq_nil_of_le (Nat.le_trans (List.length_take_le n text) hle)
    rw [hnil, List.nil_append, Nat.max_eq_left hle]
  · have hlen : m ≤ (text.take n).length := by
      rw [List.length_take]
      omega
    rw [Nat.max_eq_right (by omega), ← List.drop_append_of_le_length hlen, List.take_append_drop]

theorem spliceFrom_spanEdits (new : Text → Text) (rest : Text) :
    ∀ (before : Text) (skip pos : Nat) (prev : Option Char), before.length = pos →
      spliceFrom (pos + skip) (rest.drop skip)
          (spanEdits new (before ++ rest) (header.itemsFrom skip pos prev rest)) =
        header.rewriteItems new skip prev rest := by
  induction rest with
  | nil =>
    intro before skip pos prev _
    simp [itemsFrom, rewriteItems, spanEdits, spliceFrom]
  | cons c rest ih =>
    intro before skip pos prev hpos
    have hnext : before ++ c :: rest = (before ++ [c]) ++ rest := by simp
    have hlen : (before ++ [c]).length = pos + 1 := by simp [hpos]
    cases skip with
    | succ skip =>
      have := ih (before ++ [c]) skip (pos + 1) (some c) hlen
      rw [← hnext, Nat.add_right_comm] at this
      exact this
    | zero =>
      rw [Nat.add_zero, List.drop_zero]
      cases hw : header.width? prev (c :: rest) with
      | none =>
        simp only [itemsFrom, rewriteItems, hw]
        rw [spliceFrom_cons, hnext]
        · exact congrArg (c :: ·) (ih (before ++ [c]) 0 (pos + 1) (some c) hlen)
        · intro edit he
          obtain ⟨span, hspan, rfl⟩ := List.mem_map.mp he
          have := itemsFrom_bounds rest 0 (pos + 1) (some c) span hspan
          exact ⟨by simp only; omega, Nat.le_of_lt this.2⟩
      | some n =>
        cases hclose : Matcher.closing? 0 0 (c :: rest) with
        | none => simp [itemsFrom, rewriteItems, hw, hclose, spanEdits, spliceFrom]
        | some m =>
          have hm := Matcher.closing?_bounds hclose
          have hn := width?_le hw
          rw [List.length_cons] at hm hn
          -- The rest of the text behind the item: what the header still covers, and what follows.
          have htail : rest.drop (max m n - 1) = (c :: rest).drop (max m n) := by
            have hmax : max m n = (max m n - 1) + 1 := by omega
            rw [hmax, List.drop_succ_cons, Nat.add_sub_cancel]
          have hinside : m ≤ (c :: rest).length := by
            rw [List.length_cons]
            omega
          have hkept := drop_eq_append (c :: rest) n hinside
          rw [← htail] at hkept
          have hlength : (((c :: rest).take n).drop m).length = n - m := by
            simp
            omega
          have hslice : (Span.mk pos (pos + m)).slice (before ++ c :: rest) = (c :: rest).take m := by
            simp [Span.slice, ← hpos]
          have hrest := ih (before ++ [c]) (max m n - 1) (pos + 1) (some c) hlen
          have hresume : pos + 1 + (max m n - 1) = pos + m + (n - m) := by omega
          rw [← hnext, hresume] at hrest
          simp only [itemsFrom, rewriteItems, hw, hclose, spanEdits, List.map_cons, spliceFrom,
            hslice, Nat.sub_self, List.take_zero, List.nil_append, Nat.add_sub_cancel_left]
          rw [hkept, spliceFrom_append, hlength, List.append_assoc]
          · exact congrArg (fun t => new ((c :: rest).take m) ++ (_ ++ t)) hrest
          · intro edit he
            obtain ⟨span, hspan, rfl⟩ := List.mem_map.mp he
            have := itemsFrom_bounds rest _ (pos + 1) (some c) span hspan
            rw [hlength]
            exact ⟨by simp only; omega, Nat.le_of_lt this.2⟩

theorem patched_rewriteItems {allowed : Text → Text → Prop}
    (h : ∀ item, Patched allowed item (new item)) (text : Text) :
    ∀ (skip : Nat) (prev : Option Char),
      Patched allowed (text.drop skip) (header.rewriteItems new skip prev text) := by
  induction text with
  | nil =>
    intro skip prev
    rw [List.drop_nil]
    cases skip <;> exact .refl []
  | cons c rest ih =>
    intro skip prev
    cases skip with
    | succ skip => exact ih skip (some c)
    | zero =>
      rw [List.drop_zero]
      cases hw : header.width? prev (c :: rest) with
      | none =>
        rw [rewriteItems, hw]
        exact (ih 0 (some c)).behind [c]
      | some n =>
        cases hclose : Matcher.closing? 0 0 (c :: rest) with
        | none =>
          rw [rewriteItems, hw]
          simp only [hclose]
          exact .refl _
        | some m =>
          have hm := Matcher.closing?_bounds hclose
          have hinside : m ≤ (c :: rest).length := by omega
          have htail : (c :: rest).drop (max m n) = rest.drop (max m n - 1) := by
            have hmax : max m n = (max m n - 1) + 1 := by omega
            rw [hmax, List.drop_succ_cons, Nat.add_sub_cancel]
          have hsplit := List.take_append_drop m (c :: rest)
          rw [drop_eq_append (c :: rest) n hinside, htail, ← List.append_assoc] at hsplit
          have hpatched := (((h ((c :: rest).take m)).before (((c :: rest).take n).drop m)).before
            (rest.drop (max m n - 1))).trans ((ih (max m n - 1) (some c)).behind _)
          rw [hsplit] at hpatched
          rw [rewriteItems, hw]
          simp only [hclose]
          exact hpatched

theorem itemsFrom_eq_nil {text : Text} :
    ∀ {pos : Nat} {prev : Option Char}, header.occurs prev text = false →
      header.itemsFrom 0 pos prev text = [] := by
  induction text with
  | nil => exact fun _ => rfl
  | cons c rest ih =>
    intro pos prev h
    rw [occurs, Bool.or_eq_false_iff, Option.isSome_eq_false_iff, Option.isNone_iff_eq_none] at h
    rw [itemsFrom, h.1]
    exact ih h.2

theorem rewriteItems_of_not_occurs {text : Text} :
    ∀ {prev : Option Char}, header.occurs prev text = false →
      header.rewriteItems new 0 prev text = text := by
  induction text with
  | nil => exact fun _ => rfl
  | cons c rest ih =>
    intro prev h
    rw [occurs, Bool.or_eq_false_iff, Option.isSome_eq_false_iff, Option.isNone_iff_eq_none] at h
    rw [rewriteItems, h.1]
    exact congrArg (c :: ·) (ih h.2)

theorem First.itemsFrom_skip {prev : Option Char} {text before found after : Text}
    (h : header.First prev text before found after) (pos : Nat) :
    header.itemsFrom 0 pos prev text =
      header.itemsFrom 0 (pos + before.length) (Text.lastFrom prev before) (found ++ after) := by
  obtain ⟨rfl, hwidth, hearlier⟩ := h
  induction before generalizing pos prev with
  | nil => rfl
  | cons c before ih =>
    have hfirst := hearlier [] (c :: before) rfl (by simp)
    rw [Text.lastFrom, List.cons_append] at hfirst
    have hnext := @ih (some c) (pos + 1) hwidth
      fun left right heq hne => hearlier (c :: left) right (by rw [heq]; rfl) hne
    have hpos : pos + 1 + before.length = pos + (c :: before).length := by
      rw [List.length_cons]
      omega
    rw [List.cons_append, Pattern.itemsFrom, hfirst, ← hpos]
    exact hnext

theorem First.itemsFrom {prev : Option Char} {text before found after : Text} {m : Nat}
    (h : header.First prev text before found after)
    (hclose : Matcher.closing? 0 0 (found ++ after) = some m) (pos : Nat) :
    ∃ more, header.itemsFrom 0 pos prev text =
      ⟨pos + before.length, pos + before.length + m⟩ :: more := by
  have hwidth := h.width
  rw [h.itemsFrom_skip]
  cases hrest : found ++ after with
  | nil =>
    rw [hrest] at hclose
    cases hclose
  | cons c rest =>
    rw [hrest] at hclose hwidth
    refine ⟨header.itemsFrom (max m found.length - 1) (pos + before.length + 1) (some c) rest, ?_⟩
    simp only [Pattern.itemsFrom, hwidth, hclose]

theorem First.rewriteItems_skip {prev : Option Char} {text before found after : Text}
    (h : header.First prev text before found after) :
    header.rewriteItems new 0 prev text =
      before ++ header.rewriteItems new 0 (Text.lastFrom prev before) (found ++ after) := by
  obtain ⟨rfl, hwidth, hearlier⟩ := h
  induction before generalizing prev with
  | nil => rfl
  | cons c before ih =>
    have hfirst := hearlier [] (c :: before) rfl (by simp)
    rw [Text.lastFrom, List.cons_append] at hfirst
    rw [List.cons_append, rewriteItems, hfirst]
    exact congrArg (c :: ·) (@ih (some c) hwidth
      fun left right heq hne => hearlier (c :: left) right (by rw [heq]; rfl) hne)

theorem First.rewriteItems_of_unclosed {prev : Option Char} {text before found after : Text}
    (h : header.First prev text before found after)
    (hclose : Matcher.closing? 0 0 (found ++ after) = none) :
    header.rewriteItems new 0 prev text = text := by
  have hwidth := h.width
  rw [h.rewriteItems_skip, h.split]
  cases hrest : found ++ after with
  | nil => rfl
  | cons c rest =>
    rw [hrest] at hclose hwidth
    rw [rewriteItems, hwidth]
    simp only [hclose]

/-- Without a closing brace behind the first header there is no item at all. -/
theorem First.itemsFrom_of_unclosed {prev : Option Char} {text before found after : Text}
    (h : header.First prev text before found after)
    (hclose : Matcher.closing? 0 0 (found ++ after) = none) (pos : Nat) :
    header.itemsFrom 0 pos prev text = [] := by
  have hwidth := h.width
  rw [h.itemsFrom_skip]
  cases hrest : found ++ after with
  | nil => rfl
  | cons c rest =>
    rw [hrest] at hclose hwidth
    simp only [Pattern.itemsFrom, hwidth, hclose]

def PassesItems (header : Pattern) (new : Text → Text) (prev : Option Char) (text out : Text) :
    Prop :=
  ∀ tail, header.rewriteItems new 0 prev (text ++ tail) =
    out ++ header.rewriteItems new 0 (Text.lastFrom prev text) tail

namespace PassesItems

variable {prev : Option Char} {first second out out' : Text}

theorem append (h₁ : header.PassesItems new prev first out)
    (h₂ : header.PassesItems new (Text.lastFrom prev first) second out') :
    header.PassesItems new prev (first ++ second) (out ++ out') := by
  intro tail
  rw [List.append_assoc, h₁, h₂, Text.lastFrom_append, List.append_assoc]

theorem of_quiet {text : Text} (h : header.Quiet prev text) :
    header.PassesItems new prev text text := by
  intro tail
  induction text generalizing prev with
  | nil => rfl
  | cons c rest ih =>
    rw [List.cons_append, rewriteItems, h.width?_eq_none tail]
    exact congrArg (c :: ·) (ih h.tail)

/-- An item that contains its header is replaced, and the walk goes on behind it. -/
theorem of_closing {item : Text} (hclose : Matcher.closing? 0 0 item = some item.length)
    (hwidth : ∀ tail, ∃ n, header.width? prev (item ++ tail) = some n ∧ n ≤ item.length) :
    header.PassesItems new prev item (new item) := by
  intro tail
  obtain ⟨n, hw, hn⟩ := hwidth tail
  have hclosed := Matcher.closing?_of_append tail hclose
  cases item with
  | nil => cases hclose
  | cons c rest =>
    have skip (rest : Text) : ∀ prev, header.rewriteItems new rest.length prev (rest ++ tail) =
        header.rewriteItems new 0 (Text.lastFrom prev rest) tail := by
      induction rest with
      | nil => exact fun _ => rfl
      | cons d rest ih => exact fun _ => ih (some d)
    have hinside : ((c :: (rest ++ tail)).take n).drop (c :: rest).length = [] :=
      List.drop_eq_nil_of_le (Nat.le_trans (List.length_take_le _ _) hn)
    have hitem : (c :: (rest ++ tail)).take (c :: rest).length = c :: rest := by
      rw [← List.cons_append, List.take_left]
    rw [List.cons_append] at hw hclosed ⊢
    rw [rewriteItems, hw]
    simp only [hclosed]
    rw [hitem, hinside, List.append_nil, Nat.max_eq_left hn, List.length_cons,
      Nat.add_sub_cancel, skip]
    rfl

theorem rewriteItems {text : Text} (h : header.PassesItems new none text out) :
    header.rewriteItems new 0 none text = out := by
  have := h []
  simpa [Pattern.rewriteItems] using this

end PassesItems

end Pattern

namespace Rule

variable {rule : Rule} {expr : Regex} {header : Pattern} {new : Replacement} {text : Text}

theorem spans_braced (hp : expr.pattern = header) (hs : header.settled = true)
    (hc : header.consumes = true) (text : Text) :
    (Matcher.braced expr).spans text = header.itemsFrom 0 0 none text := by
  subst hp
  exact Pattern.sweepFrom_eq_itemsFrom hs hc text 0 false 0 none

theorem getD_replace?_braced (hp : expr.pattern = header) (hs : header.settled = true)
    (hc : header.consumes = true) (new : Replacement) (scope : Scope) (text : Text) :
    ((Matcher.braced expr).replace? new scope text).getD text =
      splice text (Pattern.spanEdits new.acts text
        (scope.pick (header.itemsFrom 0 0 none text))) := by
  rw [← spans_braced hp hs hc]
  exact Matcher.getD_replace?_of_spans (fun h => by cases h) scope text

section

variable (hm : rule.matcher = .braced expr) (hp : expr.pattern = header)
  (hs : header.settled = true) (hc : header.consumes = true)

include hm hp hs hc

theorem apply_rewriteItems (ha : rule.action = .replace new .all)
    (hg : rule.guard.holds text = true) :
    rule.apply text = header.rewriteItems new.acts 0 none text := by
  have hsplice := @Pattern.spliceFrom_spanEdits header new.acts text [] 0 0 none rfl
  rw [apply_of_replace ha hg, hm, getD_replace?_braced hp hs hc, Scope.pick_all]
  exact hsplice

theorem apply_firstItem {before found after : Text} {m : Nat}
    (ha : rule.action = .replace new .first) (hg : rule.guard.holds text = true)
    (hf : header.First none text before found after)
    (hclose : Matcher.closing? 0 0 (found ++ after) = some m) :
    rule.apply text =
      before ++ new.acts ((found ++ after).take m) ++ (found ++ after).drop m := by
  obtain ⟨more, hitems⟩ := hf.itemsFrom hclose 0
  have hsplit := hf.split
  rw [apply_of_replace ha hg, hm]
  simp only [getD_replace?_braced hp hs hc, hitems, Pattern.spanEdits, Scope.pick_first,
    List.map_cons, List.map_nil, List.take_succ_cons, List.take_zero, splice, spliceFrom,
    Span.slice, Nat.zero_add, Nat.sub_zero]
  rw [hsplit, List.take_left, Nat.add_sub_cancel_left, List.drop_left, ← List.drop_drop,
    List.drop_left]

theorem apply_of_no_items (h : header.itemsFrom 0 0 none text = []) : rule.apply text = text := by
  have hspans := (spans_braced hp hs hc text).trans h
  by_cases hg : rule.guard.holds text = true
  · cases ha : rule.action with
    | replace new scope =>
      rw [apply_of_replace ha hg, hm, (Matcher.replace?_eq_none_iff _ new scope text).mpr hspans,
        Option.getD_none]
    | insert new side =>
      rw [apply_of_insert ha hg, hm]
      simp [Matcher.find?, hspans]
  · exact apply_of_guard_false (by simpa using hg)

theorem apply_of_no_header (h : header.occurs none text = false) : rule.apply text = text :=
  apply_of_no_items hm hp hs hc (Pattern.itemsFrom_eq_nil h)

end

end Rule

end Recast
