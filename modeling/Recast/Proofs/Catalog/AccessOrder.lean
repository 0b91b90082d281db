import Recast.Proofs.Catalog.ImportEdits

/-! Rewriting how handlers reach the pool and rewriting how they reach auth. A dereferenced pool stands
behind an ampersand, which no access to auth contains, so the text between two ampersands is rewritten
on its own as far as auth goes. Behind the ampersand, the name of the pool is all that both rewritings
may look at: the one writes it in another way, and the other one leaves it alone in either way. -/

namespace Recast.Catalog

open Pattern

def stalks : List Text :=
  [Text.spell "pool", Text.spell "*pool", Text.spell "**pool", Text.spell "*state.pool"]

theorem stalk_length {stalk : Text} (h : stalk ∈ stalks) : 4 ≤ stalk.length := by
  have hall : stalks.all fun stalk => 4 ≤ stalk.length := by decide
  exact of_decide_eq_true (List.all_eq_true.mp hall stalk h)

structure PoolSweep (pattern : Pattern) (old : List Text) (new : Text) : Prop where
  old_stalk : ∀ stalk ∈ old, stalk ∈ stalks
  new_stalk : new ∈ stalks
  apart : ∀ stalk ∈ old, ∀ other ∈ old, stalk.agree other = true → stalk = other
  reads : ∀ {prev found rest}, pattern.Reads prev found rest ↔
    (∃ stalk ∈ old, found = '&' :: stalk) ∧ Text.wordy rest.head? = false

namespace PoolSweep

variable {pattern : Pattern} {old : List Text} {new stalk : Text} (h : PoolSweep pattern old new)

def sweep (pattern : Pattern) (new text : Text) : Text := pattern.rewrite (fun _ => '&' :: new) text

include h

theorem begins : pattern.Begins ['&'] := by
  intro prev text rest hreads
  obtain ⟨⟨stalk, -, rfl⟩, -⟩ := h.reads.mp hreads
  exact List.prefix_append ['&'] stalk

theorem rewriteFrom_prev (prev : Option Char) (text : Text) :
    pattern.rewriteFrom (fun _ => '&' :: new) 0 prev text = sweep pattern new text := by
  cases text with
  | nil => rfl
  | cons c text =>
    have hwidth : pattern.width? prev (c :: text) = pattern.width? none (c :: text) := by
      have hsame {first second : Option Char} {n : Nat}
          (hn : pattern.width? first (c :: text) = some n) :
          pattern.width? second (c :: text) = some n := by
        have hreads := reads_of_width? hn
        have hcut := List.take_append_drop n (c :: text)
        have hother := width?_of_reads (h.reads.mpr (h.reads.mp hreads) :
          pattern.Reads second _ _) fun found more heq hfound => ?_
        · rwa [hcut, List.length_take, Nat.min_eq_left (width?_le hn)] at hother
        · obtain ⟨⟨stalk, hstalk, hleft⟩, -⟩ := h.reads.mp hreads
          obtain ⟨⟨other, hother, hright⟩, -⟩ := h.reads.mp hfound
          rw [hleft, hright] at heq ⊢
          have hagree := Text.agree_of_append_eq (List.cons.inj heq).2
          rw [h.apart stalk hstalk other hother hagree]
      exact Option.ext fun n => ⟨hsame, hsame⟩
    rw [sweep, rewrite, rewriteFrom, rewriteFrom, hwidth]

theorem sweep_append {front : Text} (hfront : '&' ∉ front) (text : Text) :
    sweep pattern new (front ++ text) = front ++ sweep pattern new text := by
  have hbegins : pattern.Begins ['&'] := h.begins
  have hquiet := hbegins.quiet (Text.clears_of_head_notin hfront) none
  exact (hquiet.passes text).trans (congrArg (front ++ ·) (h.rewriteFrom_prev _ _))

theorem sweep_unmarked {text : Text} (htext : '&' ∉ text) : sweep pattern new text = text := by
  have happend := h.sweep_append htext []
  rw [List.append_nil] at happend
  exact happend.trans (List.append_nil text)

theorem sweep_stalk (hstalk : stalk ∈ old) {text : Text} (htext : Text.wordy text.head? = false) :
    sweep pattern new ('&' :: (stalk ++ text)) = '&' :: (new ++ sweep pattern new text) := by
  have hreads : pattern.Reads none ('&' :: stalk) text := h.reads.mpr ⟨⟨stalk, hstalk, rfl⟩, htext⟩
  have hwidth := width?_of_reads hreads fun found more heq hfound => ?_
  · exact (rewriteFrom_of_width? (by simp) hwidth).trans
      (congrArg ('&' :: new ++ ·) (h.rewriteFrom_prev _ _))
  · obtain ⟨⟨other, hother, rfl⟩, -⟩ := h.reads.mp hfound
    have hagree := Text.agree_of_append_eq (List.cons.inj heq).2
    rw [h.apart stalk hstalk other hother hagree]

theorem sweep_other {text : Text}
    (hother : ∀ stalk ∈ old, ∀ rest, text = stalk ++ rest → Text.wordy rest.head? = true) :
    sweep pattern new ('&' :: text) = '&' :: sweep pattern new text := by
  have hnone : pattern.width? none ('&' :: text) = none := by
    refine width?_eq_none_iff_reads.mpr fun found rest heq hreads => ?_
    obtain ⟨⟨stalk, hstalk, rfl⟩, hrest⟩ := h.reads.mp hreads
    rw [hother stalk hstalk rest (List.cons.inj heq).2] at hrest
    cases hrest
  have hstep : sweep pattern new ('&' :: text) =
      '&' :: pattern.rewriteFrom (fun _ => '&' :: new) 0 (some '&') text := by
    rw [sweep, rewrite, rewriteFrom, hnone]
  rw [hstep, h.rewriteFrom_prev]

omit h in
/-- Behind an ampersand stands a pool in one of the old ways, or nothing is rewritten there. -/
theorem stalk_or_other (old : List Text) (text : Text) :
    (∃ stalk ∈ old, ∃ rest, text = stalk ++ rest ∧ Text.wordy rest.head? = false) ∨
      ∀ stalk ∈ old, ∀ rest, text = stalk ++ rest → Text.wordy rest.head? = true := by
  by_cases hfound : ∃ stalk ∈ old, ∃ rest, text = stalk ++ rest ∧ Text.wordy rest.head? = false
  · exact .inl hfound
  · refine .inr fun stalk hstalk rest heq => ?_
    refine Bool.of_not_eq_false fun hrest => hfound ⟨stalk, hstalk, rest, heq, hrest⟩

theorem head?_sweep (text : Text) : (sweep pattern new text).head? = text.head? := by
  cases text with
  | nil => rfl
  | cons c text =>
    by_cases hc : c = '&'
    · subst hc
      rcases stalk_or_other old text with ⟨stalk, hstalk, rest, rfl, hrest⟩ | hother
      · rw [h.sweep_stalk hstalk hrest]
        rfl
      · rw [h.sweep_other hother]
        rfl
    · have hfront : '&' ∉ [c] := fun hmem => hc (List.mem_singleton.mp hmem).symm
      have happend := h.sweep_append hfront text
      rw [List.cons_append, List.nil_append] at happend
      rw [happend]
      rfl

end PoolSweep

/-- A rewriting that treats the text before an ampersand on its own, and neither changes nor makes a
name of the pool behind an ampersand. What it makes of the text behind the name is the same however the
pool is written. -/
structure SparesPool (access : Option Char → Text → Text) : Prop where
  unmarked : ∀ {prev text}, '&' ∉ text → '&' ∉ access prev text
  fence : ∀ prev {text}, '&' ∉ text → ∃ out, '&' ∉ out ∧
    ∀ more, access prev (text ++ '&' :: more) = out ++ '&' :: access (some '&') more
  behind : ∀ {text}, Text.wordy text.head? = false → ∃ out, Text.wordy out.head? = false ∧
    ∀ stalk ∈ stalks, access (some '&') (stalk ++ text) = stalk ++ out
  exposed : ∀ {stalk text out}, stalk ∈ stalks → access (some '&') text = stalk ++ out →
    Text.wordy out.head? = false → ∃ rest, text = stalk ++ rest ∧ Text.wordy rest.head? = false

structure KeepsPool (access : Option Char → Text → Text) : Prop where
  mark : ∀ {c}, Text.isWord c = false → ∀ prev text, access prev (c :: text) = c :: access (some c) text
  of_mark : ∀ {c prev text out}, Text.isWord c = false → access prev text = c :: out →
    ∃ rest, text = c :: rest ∧ access (some c) rest = out
  pool : ∀ {text}, Text.wordy text.head? = false → ∃ out, Text.wordy out.head? = false ∧
    ∀ prev, Text.wordy prev = false →
      access prev (Text.spell "pool" ++ text) = Text.spell "pool" ++ out
  of_pool : ∀ {prev text out}, Text.wordy out.head? = false →
    access prev text = Text.spell "pool" ++ out →
      ∃ rest, text = Text.spell "pool" ++ rest ∧ Text.wordy rest.head? = false
  state_pool : ∀ prev text, access prev (Text.spell "state.pool" ++ text) =
    Text.spell "state" ++ ('.' :: access (some '.') (Text.spell "pool" ++ text))
  of_state_pool : ∀ {prev text out}, Text.wordy out.head? = false →
    access prev text = Text.spell "state.pool" ++ out →
      ∃ rest, text = Text.spell "state.pool" ++ rest ∧ Text.wordy rest.head? = false

namespace KeepsPool

variable {access : Option Char → Text → Text} (h : KeepsPool access) {text out stalk : Text}

include h

theorem behind (htext : Text.wordy text.head? = false) : ∃ out, Text.wordy out.head? = false ∧
    ∀ stalk ∈ stalks, access (some '&') (stalk ++ text) = stalk ++ out := by
  obtain ⟨out, hout, hpool⟩ := h.pool htext
  have hstar {prev : Option Char} (more : Text) :
      access prev ('*' :: more) = '*' :: access (some '*') more :=
    h.mark (by decide) prev more
  refine ⟨out, hout, fun stalk hstalk => ?_⟩
  simp only [stalks, List.mem_cons, List.not_mem_nil, or_false] at hstalk
  rcases hstalk with rfl | rfl | rfl | rfl
  · exact hpool _ (by decide)
  · exact (hstar _).trans (congrArg ('*' :: ·) (hpool _ (by decide)))
  · refine (hstar _).trans (congrArg ('*' :: ·) ?_)
    exact (hstar _).trans (congrArg ('*' :: ·) (hpool _ (by decide)))
  · have hhead : access (some '&') (Text.spell "*state.pool" ++ text) =
        '*' :: access (some '*') (Text.spell "state.pool" ++ text) :=
      hstar _
    rw [hhead, h.state_pool, hpool _ (by decide)]
    rfl

theorem exposed (hstalk : stalk ∈ stalks) (heq : access (some '&') text = stalk ++ out)
    (hout : Text.wordy out.head? = false) :
    ∃ rest, text = stalk ++ rest ∧ Text.wordy rest.head? = false := by
  simp only [stalks, List.mem_cons, List.not_mem_nil, or_false] at hstalk
  rcases hstalk with rfl | rfl | rfl | rfl
  · exact h.of_pool hout heq
  · obtain ⟨more, rfl, hmore⟩ := h.of_mark (by decide) heq
    obtain ⟨rest, rfl, hrest⟩ := h.of_pool hout hmore
    exact ⟨rest, rfl, hrest⟩
  · obtain ⟨_, rfl, hstar⟩ := h.of_mark (by decide) heq
    obtain ⟨more, rfl, hmore⟩ := h.of_mark (by decide) hstar
    obtain ⟨rest, rfl, hrest⟩ := h.of_pool hout hmore
    exact ⟨rest, rfl, hrest⟩
  · obtain ⟨more, rfl, hmore⟩ := h.of_mark (by decide) heq
    obtain ⟨rest, rfl, hrest⟩ := h.of_state_pool hout hmore
    exact ⟨rest, rfl, hrest⟩

end KeepsPool

/-- The pool and auth may be rewritten in either order. -/
theorem PoolSweep.comm {pattern : Pattern} {old : List Text} {new : Text}
    (h : PoolSweep pattern old new) {access : Option Char → Text → Text} (ha : SparesPool access)
    (text : Text) : ∀ prev, sweep pattern new (access prev text) =
      access prev (sweep pattern new text) := by
  induction hn : text.length using Nat.strongRecOn generalizing text with
  | ind n ih =>
    intro prev
    by_cases hmark : '&' ∈ text
    · obtain ⟨front, more, rfl, hfront⟩ := List.eq_append_cons_of_mem hmark
      obtain ⟨out, hout, haccess⟩ := ha.fence prev hfront
      have hlength : more.length < n := by
        rw [← hn, List.length_append, List.length_cons]
        omega
      -- it is enough to compare what follows the first ampersand
      suffices hrest : ∃ rest, sweep pattern new ('&' :: more) = '&' :: rest ∧
          sweep pattern new ('&' :: access (some '&') more) = '&' :: access (some '&') rest by
        obtain ⟨rest, hmore, hswept⟩ := hrest
        rw [haccess, h.sweep_append hout, hswept, h.sweep_append hfront, hmore, haccess]
      rcases stalk_or_other old more with ⟨stalk, hstalk, rest, rfl, hrest⟩ | hother
      · obtain ⟨behind, hbehind, hstalks⟩ := ha.behind hrest
        obtain ⟨swept, -, hnew⟩ := ha.behind ((congrArg Text.wordy (h.head?_sweep rest)).trans hrest)
        have hpool : Text.spell "pool" ∈ stalks := by decide
        have hunmarked : '&' ∉ Text.spell "pool" := by decide
        -- behind the bare name the two rewritings meet the same text
        have hsame : sweep pattern new behind = swept := by
          have hshort : (Text.spell "pool" ++ rest).length < n := by
            have hlong := stalk_length (h.old_stalk stalk hstalk)
            have hfour : (Text.spell "pool").length = 4 := rfl
            rw [List.length_append] at hlength ⊢
            omega
          have hcomm := ih _ hshort (Text.spell "pool" ++ rest) rfl (some '&')
          rw [hstalks _ hpool, h.sweep_append hunmarked, h.sweep_append hunmarked,
            hnew _ hpool] at hcomm
          exact List.append_cancel_left hcomm
        refine ⟨new ++ sweep pattern new rest, h.sweep_stalk hstalk hrest, ?_⟩
        rw [hstalks _ (h.old_stalk stalk hstalk), h.sweep_stalk hstalk hbehind, hnew _ h.new_stalk,
          hsame]
      · refine ⟨sweep pattern new more, h.sweep_other hother, ?_⟩
        rw [h.sweep_other, ih _ hlength more rfl]
        intro stalk hstalk out heq
        refine Bool.of_not_eq_false fun hout => ?_
        obtain ⟨rest, rfl, hrest⟩ := ha.exposed (h.old_stalk stalk hstalk) heq hout
        rw [hother stalk hstalk rest rfl] at hrest
        cases hrest
    · rw [h.sweep_unmarked hmark, h.sweep_unmarked (ha.unmarked hmark)]

theorem notin_rewriteFrom {pattern : Pattern} {new : Text → Text} {mark : Char}
    (hnew : ∀ found, mark ∉ found → mark ∉ new found) {text : Text} (h : mark ∉ text) :
    ∀ (skip : Nat) (prev : Option Char), mark ∉ pattern.rewriteFrom new skip prev text := by
  induction text with
  | nil =>
    intro skip prev
    cases skip <;> exact h
  | cons c text ih =>
    have hrest := ih fun hmem => h (List.mem_cons_of_mem c hmem)
    intro skip prev
    cases skip with
    | succ skip => exact hrest skip (some c)
    | zero =>
      rw [rewriteFrom]
      split
      · exact fun hmem => (List.mem_cons.mp hmem).elim
          (fun heq => h (heq ▸ List.mem_cons_self)) (hrest 0 (some c))
      next n _ =>
        have htake : mark ∉ (c :: text).take n := fun hmem => h (List.mem_of_mem_take hmem)
        exact fun hmem => (List.mem_append.mp hmem).elim (hnew _ htake) (hrest (n - 1) (some c))

theorem word_inj {first second left right : Text} (hfirst : ∀ c ∈ first, Text.isWord c = true)
    (hsecond : ∀ c ∈ second, Text.isWord c = true) (hleft : Text.wordy left.head? = false)
    (hright : Text.wordy right.head? = false) (heq : first ++ left = second ++ right) :
    first = second ∧ left = right := by
  rcases List.append_eq_append_iff.mp heq with ⟨gap, rfl, rfl⟩ | ⟨gap, rfl, rfl⟩
  · cases gap with
    | nil => simp
    | cons c gap =>
      have hword : Text.isWord c = false := hleft
      rw [hsecond c (by simp)] at hword
      cases hword
  · cases gap with
    | nil => simp
    | cons c gap =>
      have hword : Text.isWord c = false := hright
      rw [hfirst c (by simp)] at hword
      cases hword

/-- A character that is no part of a word stood there before, if every match is replaced by a text that
begins with a word. -/
theorem of_rewriteFrom_mark {pattern : Pattern} {new : Text → Text} {prev : Option Char}
    {text out : Text}
    (hnew : ∀ {prev found rest}, pattern.Reads prev found rest →
      ∀ more, Text.wordy (new found ++ more).head? = true)
    {c : Char} (hc : Text.isWord c = false) (heq : pattern.rewriteFrom new 0 prev text = c :: out) :
    ∃ rest, text = c :: rest ∧ pattern.rewriteFrom new 0 (some c) rest = out := by
  cases text with
  | nil => cases heq
  | cons d text =>
    rw [rewriteFrom] at heq
    cases hwidth : pattern.width? prev (d :: text) with
    | some n =>
      rw [hwidth] at heq
      have hword := hnew (reads_of_width? hwidth) (pattern.rewriteFrom new (n - 1) (some d) text)
      have hhead := congrArg (fun text : Text => Text.wordy text.head?) heq
      have hisWord : Text.isWord c = true := hhead.symm.trans hword
      rw [hisWord] at hc
      cases hc
    | none =>
      rw [hwidth] at heq
      obtain ⟨rfl, htail⟩ := List.cons.inj heq
      exact ⟨text, rfl, htail⟩

structure WordLed (pattern : Pattern) : Prop where
  edge : ∀ {prev found rest}, pattern.Reads prev found rest → Text.wordy prev = false
  head : ∀ {prev found rest}, pattern.Reads prev found rest → Text.wordy found.head? = true

namespace WordLed

variable {pattern : Pattern} {new : Text → Text} (h : WordLed pattern) {prev : Option Char}
  {word text out : Text}

include h

theorem rewriteFrom_cons {c : Char} (hplace : Text.wordy prev = true ∨ Text.isWord c = false)
    (text : Text) : pattern.rewriteFrom new 0 prev (c :: text) =
      c :: pattern.rewriteFrom new 0 (some c) text := by
  have hnone : pattern.width? prev (c :: text) = none := by
    refine width?_eq_none_iff_reads.mpr fun found rest heq hreads => ?_
    have hprev := h.edge hreads
    have hhead := h.head hreads
    rcases hplace with hword | hmark
    · rw [hword] at hprev
      cases hprev
    · cases found with
      | nil => cases hhead
      | cons d found =>
        obtain ⟨rfl, -⟩ := List.cons.inj heq
        have hword : Text.isWord c = true := hhead
        rw [hword] at hmark
        cases hmark
  rw [rewriteFrom, hnone]

theorem rewriteFrom_word (hprev : Text.wordy prev = true)
    (hword : ∀ c ∈ word, Text.isWord c = true) (text : Text) :
    pattern.rewriteFrom new 0 prev (word ++ text) =
      word ++ pattern.rewriteFrom new 0 (Text.lastFrom prev word) text := by
  induction word generalizing prev with
  | nil => rfl
  | cons c word ih =>
    have hc : Text.wordy (some c) = true := hword c List.mem_cons_self
    rw [List.cons_append, h.rewriteFrom_cons (.inl hprev),
      ih hc fun d hd => hword d (List.mem_cons_of_mem c hd)]
    rfl

theorem rewriteFrom_name {name : Text} (hname : IsName name)
    (hnone : pattern.width? prev (name ++ text) = none) :
    pattern.rewriteFrom new 0 prev (name ++ text) =
      name ++ pattern.rewriteFrom new 0 (Text.lastFrom prev name) text := by
  obtain ⟨c, word, rfl⟩ := List.exists_cons_of_ne_nil hname.nonempty
  have hc : Text.wordy (some c) = true := hname.word c List.mem_cons_self
  rw [List.cons_append] at hnone ⊢
  rw [rewriteFrom, hnone]
  exact congrArg (c :: ·) (h.rewriteFrom_word hc
    (fun d hd => hname.word d (List.mem_cons_of_mem c hd)) text)

theorem head?_rewriteFrom (hprev : Text.wordy prev = true) (text : Text) :
    (pattern.rewriteFrom new 0 prev text).head? = text.head? := by
  cases text with
  | nil => rfl
  | cons c text =>
    rw [h.rewriteFrom_cons (.inl hprev)]
    rfl

theorem of_rewriteFrom_word (hprev : Text.wordy prev = true)
    (hword : ∀ c ∈ word, Text.isWord c = true)
    (heq : pattern.rewriteFrom new 0 prev text = word ++ out) :
    ∃ rest, text = word ++ rest ∧
      pattern.rewriteFrom new 0 (Text.lastFrom prev word) rest = out := by
  induction word generalizing prev text with
  | nil => exact ⟨text, rfl, heq⟩
  | cons c word ih =>
    cases text with
    | nil => cases heq
    | cons d text =>
      rw [h.rewriteFrom_cons (.inl hprev)] at heq
      obtain ⟨rfl, htail⟩ := List.cons.inj heq
      have hd : Text.wordy (some d) = true := hword d List.mem_cons_self
      obtain ⟨rest, rfl, hrest⟩ := ih hd (fun e he => hword e (List.mem_cons_of_mem d he))
        htail
      exact ⟨rest, rfl, hrest⟩

/-- A name that stands first after the rewriting stood first before, if no match did. -/
theorem of_rewriteFrom_name {name : Text} (hname : IsName name)
    (hout : Text.wordy out.head? = false) (hnone : pattern.width? prev text = none)
    (heq : pattern.rewriteFrom new 0 prev text = name ++ out) :
    ∃ rest, text = name ++ rest ∧ Text.wordy rest.head? = false ∧
      pattern.rewriteFrom new 0 (Text.lastFrom prev name) rest = out := by
  obtain ⟨c, word, rfl⟩ := List.exists_cons_of_ne_nil hname.nonempty
  cases text with
  | nil => cases heq
  | cons d text =>
    rw [rewriteFrom, hnone] at heq
    obtain ⟨rfl, htail⟩ := List.cons.inj heq
    have hd : Text.wordy (some d) = true := hname.word d List.mem_cons_self
    obtain ⟨rest, rfl, hrest⟩ := h.of_rewriteFrom_word hd
      (fun e he => hname.word e (List.mem_cons_of_mem d he)) htail
    refine ⟨rest, rfl, ?_, hrest⟩
    have hhead : (pattern.rewriteFrom new 0 (Text.lastFrom prev (d :: word)) rest).head? =
        rest.head? :=
      h.head?_rewriteFrom (hname.wordy_last prev) rest
    rw [← hhead]
    exact (congrArg (fun text => Text.wordy text.head?) hrest).trans hout

end WordLed

theorem authAccess_wordLed : WordLed Form.authAccess.pattern where
  edge hreads := (reads_authAccess.mp hreads).1
  head hreads := by
    obtain ⟨-, rfl | ⟨name, hname, rfl⟩⟩ := reads_authAccess.mp hreads
    · decide
    · exact hname.wordy heldAccess

def route (prev : Option Char) (text : Text) : Text :=
  Form.authAccess.pattern.rewriteFrom routeAuth 0 prev text

section

variable {prev : Option Char} {name text out rest : Text}

theorem wordy_dot (rest : Text) : Text.wordy ('.' :: rest).head? = false := by
  change Text.isWord '.' = false
  decide

theorem wordy_heldAccess (rest : Text) : Text.wordy (heldAccess ++ rest).head? = false :=
  wordy_dot (bareAccess ++ rest)

theorem not_held_pool (rest : Text) : ¬ heldAccess <+: '.' :: (Text.spell "pool" ++ rest) := by
  rintro ⟨more, heq⟩
  have hhead : 'a' = 'p' := (List.cons.inj (List.cons.inj heq).2).1
  exact absurd hhead (by decide)

theorem spell_state_pool (rest : Text) : Text.spell "state.pool" ++ rest =
    Text.spell "state" ++ ('.' :: (Text.spell "pool" ++ rest)) :=
  rfl

/-- A match at the start of a text is routed, and the rest is treated on its own. -/
theorem route_of_width? {n : Nat} (h : Form.authAccess.pattern.width? prev text = some n) :
    ∃ name rest, IsName name ∧ route prev text = name ++ (heldAccess ++ route (some '.') rest) ∧
      (text = bareAccess ++ rest ∧ name = Text.spell "state" ∨
        text = name ++ (heldAccess ++ rest)) := by
  have hreads := reads_of_width? h
  have hcut := List.take_append_drop n text
  have hlength : (text.take n).length = n := by
    rw [List.length_take, Nat.min_eq_left (width?_le h)]
  obtain ⟨-, name, hname, hroute, hshape⟩ := routeAuth_reads hreads
  have hlast : Text.lastFrom prev (text.take n) = some '.' := by
    rcases hshape with ⟨hbare, -⟩ | hheld
    · rw [hbare]
      rfl
    · rw [hheld, Text.lastFrom_append]
      rfl
  have hwidth : Form.authAccess.pattern.width? prev (text.take n ++ text.drop n) =
      some (text.take n).length := by
    rw [hcut, hlength, h]
  have hrewrite : route prev (text.take n ++ text.drop n) =
      routeAuth (text.take n) ++ route (Text.lastFrom prev (text.take n)) (text.drop n) :=
    rewriteFrom_of_width? (hreads.ne_nil Form.authAccess.consumes) hwidth
  rw [hcut, hroute, hlast, List.append_assoc] at hrewrite
  refine ⟨name, text.drop n, hname, hrewrite, ?_⟩
  rcases hshape with ⟨hbare, hstate⟩ | hheld
  · left
    rw [← hbare, hcut]
    exact ⟨rfl, hstate⟩
  · right
    rw [← List.append_assoc, ← hheld, hcut]

theorem route_held (hname : IsName name) (hprev : Text.wordy prev = false) (rest : Text) :
    route prev (name ++ (heldAccess ++ rest)) =
      name ++ (heldAccess ++ route (some '.') rest) := by
  have hne : name ++ heldAccess ≠ [] := by simp [hname.nonempty]
  have hrewrite : route prev (name ++ heldAccess ++ rest) = routeAuth (name ++ heldAccess) ++
      route (Text.lastFrom prev (name ++ heldAccess)) rest :=
    rewriteFrom_of_width? hne (width?_held hname hprev rest)
  rw [routeAuth_held hname, Text.lastFrom_append, List.append_assoc, List.append_assoc] at hrewrite
  exact hrewrite

theorem route_name (hname : IsName name) (hother : name ≠ Text.spell "auth")
    (htext : Text.wordy text.head? = false) (hheld : ¬ heldAccess <+: text) :
    route prev (name ++ text) = name ++ route (Text.lastFrom prev name) text := by
  refine authAccess_wordLed.rewriteFrom_name hname ?_
  refine width?_eq_none_iff_reads.mpr fun found more heq hreads => ?_
  obtain ⟨-, rfl | ⟨receiver, hreceiver, rfl⟩⟩ := reads_authAccess.mp hreads
  · have hbare : bareAccess ++ more = Text.spell "auth" ++ ('.' :: more) := rfl
    rw [hbare] at heq
    exact hother (word_inj hname.word auth_word htext (wordy_dot more) heq).1
  · rw [List.append_assoc] at heq
    obtain ⟨-, rfl⟩ := word_inj hname.word hreceiver.word htext (wordy_heldAccess more) heq
    exact hheld (List.prefix_append heldAccess more)

theorem isName_pool : IsName (Text.spell "pool") :=
  ⟨by decide, List.all_eq_true.mp (by decide)⟩

/-- The bare name of the pool stays, and what becomes of the text behind it does not depend on what
stands before it. -/
theorem route_pool (htext : Text.wordy text.head? = false) :
    ∃ out, Text.wordy out.head? = false ∧ ∀ prev, Text.wordy prev = false →
      route prev (Text.spell "pool" ++ text) = Text.spell "pool" ++ out := by
  by_cases hheld : heldAccess <+: text
  · obtain ⟨rest, rfl⟩ := hheld
    exact ⟨heldAccess ++ route (some '.') rest, wordy_heldAccess _,
      fun prev hprev => route_held isName_pool hprev rest⟩
  · refine ⟨route (some 'l') text, ?_, fun prev _ => route_name isName_pool (by decide) htext hheld⟩
    rw [route, authAccess_wordLed.head?_rewriteFrom (by decide)]
    exact htext

theorem route_mark {c : Char} (hc : Text.isWord c = false) (prev : Option Char) (text : Text) :
    route prev (c :: text) = c :: route (some c) text :=
  authAccess_wordLed.rewriteFrom_cons (.inr hc) text

theorem route_state_pool (prev : Option Char) (text : Text) :
    route prev (Text.spell "state.pool" ++ text) =
      Text.spell "state" ++ ('.' :: route (some '.') (Text.spell "pool" ++ text)) := by
  rw [spell_state_pool, route_name isName_state (by decide) (wordy_dot _) (not_held_pool text),
    route_mark (by decide)]

/-- A name that a routed text begins with stood there before, or is the receiver that was added. -/
theorem of_route_name (hname : IsName name) (hout : Text.wordy out.head? = false)
    (heq : route prev text = name ++ out) :
    (∃ rest, text = name ++ rest ∧ Text.wordy rest.head? = false ∧
        (route (Text.lastFrom prev name) rest = out ∨ heldAccess <+: out)) ∨
      name = Text.spell "state" ∧ heldAccess <+: out := by
  cases hwidth : Form.authAccess.pattern.width? prev text with
  | some n =>
    obtain ⟨other, rest, hother, hroute, hshape⟩ := route_of_width? hwidth
    have hheld := wordy_heldAccess (route (some '.') rest)
    obtain ⟨rfl, rfl⟩ := word_inj hname.word hother.word hout hheld (heq.symm.trans hroute)
    rcases hshape with ⟨-, rfl⟩ | rfl
    · exact .inr ⟨rfl, List.prefix_append _ _⟩
    · exact .inl ⟨_, rfl, wordy_heldAccess rest, .inr (List.prefix_append _ _)⟩
  | none =>
    obtain ⟨rest, htext, hhead, hrest⟩ := authAccess_wordLed.of_rewriteFrom_name hname hout hwidth heq
    exact .inl ⟨rest, htext, hhead, .inl hrest⟩

/-- A character that is no part of a word and that a routed text begins with stood there before. -/
theorem of_route_mark {c : Char} (hc : Text.isWord c = false) (heq : route prev text = c :: out) :
    ∃ rest, text = c :: rest ∧ route (some c) rest = out := by
  refine of_rewriteFrom_mark (fun hreads more => ?_) hc heq
  obtain ⟨-, name, hname, hroute, -⟩ := routeAuth_reads hreads
  rw [hroute, List.append_assoc]
  exact hname.wordy _

theorem of_route_pool (hout : Text.wordy out.head? = false)
    (heq : route prev text = Text.spell "pool" ++ out) :
    ∃ rest, text = Text.spell "pool" ++ rest ∧ Text.wordy rest.head? = false := by
  rcases of_route_name isName_pool hout heq with ⟨rest, htext, hrest, -⟩ | ⟨hstate, -⟩
  · exact ⟨rest, htext, hrest⟩
  · exact absurd hstate (by decide)

theorem of_route_state_pool (hout : Text.wordy out.head? = false)
    (heq : route prev text = Text.spell "state.pool" ++ out) :
    ∃ rest, text = Text.spell "state.pool" ++ rest ∧ Text.wordy rest.head? = false := by
  rw [spell_state_pool] at heq
  rcases of_route_name isName_state (wordy_dot _) heq with ⟨rest, rfl, -, hrest⟩ | ⟨-, hadded⟩
  · obtain ⟨more, rfl, hmore⟩ := of_route_mark (by decide) (hrest.resolve_right (not_held_pool out))
    obtain ⟨last, rfl, hlast⟩ := of_route_pool hout hmore
    exact ⟨last, rfl, hlast⟩
  · exact absurd hadded (not_held_pool out)

theorem route_unmarked (h : '&' ∉ text) : '&' ∉ route prev text := by
  refine notin_rewriteFrom (fun found hfound => ?_) h 0 prev
  rw [routeAuth]
  split
  · have hstate : "state.auth.".toList = Text.spell "state." ++ bareAccess := by
      rw [String.toList_ofList]
      rfl
    rw [hstate]
    decide
  · exact hfound

theorem route_keepsPool : KeepsPool route where
  mark := route_mark
  of_mark := of_route_mark
  pool := route_pool
  of_pool := of_route_pool
  state_pool := route_state_pool
  of_state_pool := of_route_state_pool

theorem route_sparesPool : SparesPool route where
  unmarked := route_unmarked
  fence prev text htext := by
    obtain ⟨out, hout⟩ := rewriteFrom_fence text 0 prev (Nat.zero_le _)
    refine ⟨out, fun hmem => ?_, fun more => hout more rfl (by decide)⟩
    have hline : route prev (text ++ ['\n']) = out ++ ['\n'] := hout [] rfl (by decide)
    have hplain : '&' ∉ text ++ ['\n'] := by simp [htext]
    refine route_unmarked hplain (hline ▸ List.mem_append_left _ hmem)
  behind := route_keepsPool.behind
  exposed := route_keepsPool.exposed

end

section

variable {prev : Option Char} {found rest : Text}

theorem reads_poolDeref : Form.poolDeref.pattern.Reads prev found rest ↔
    (∃ stalk ∈ [Text.spell "*pool", Text.spell "**pool"], found = '&' :: stalk) ∧
      Text.wordy rest.head? = false := by
  have hpool {prev : Option Char} {text : Text} :
      (lit (Text.spell "pool") Form.wordEdge).Reads prev text rest ↔
        text = Text.spell "pool" ∧ Text.wordy rest.head? = false :=
    isName_pool.reads_iff
  constructor
  · intro h
    obtain ⟨_, rfl, hmore⟩ := reads_lit.mp h
    obtain ⟨star, _, rfl, hstar, hname⟩ := reads_seq.mp hmore
    obtain ⟨rfl, hrest⟩ := hpool.mp hname
    refine ⟨?_, hrest⟩
    rcases reads_optional.mp hstar with rfl | hone
    · exact ⟨_, List.mem_cons_self, rfl⟩
    · obtain ⟨c, rfl, hc⟩ := reads_char.mp hone
      rw [CharClass.has_single.mp hc]
      exact ⟨_, List.mem_cons_of_mem _ List.mem_cons_self, rfl⟩
  · rintro ⟨⟨stalk, hstalk, rfl⟩, hrest⟩
    have hname {prev : Option Char} := (@hpool prev _).mpr ⟨rfl, hrest⟩
    simp only [List.mem_cons, List.not_mem_nil, or_false] at hstalk
    rcases hstalk with rfl | rfl
    · exact reads_lit.mpr ⟨Text.spell "pool", rfl,
        reads_seq.mpr ⟨[], _, rfl, reads_optional.mpr (.inl rfl), hname⟩⟩
    · refine reads_lit.mpr ⟨Text.spell "*pool", rfl,
        reads_seq.mpr ⟨['*'], _, rfl, reads_optional.mpr (.inr ?_), hname⟩⟩
      exact reads_char.mpr ⟨'*', rfl, CharClass.has_single.mpr rfl⟩

theorem reads_statePool : Form.statePool.pattern.Reads prev found rest ↔
    (∃ stalk ∈ [Text.spell "*state.pool"], found = '&' :: stalk) ∧
      Text.wordy rest.head? = false := by
  have hpattern : Form.statePool.pattern =
      lit (Text.spell "&*state.") (lit (Text.spell "pool") Form.wordEdge) :=
    rfl
  rw [hpattern, reads_lit]
  constructor
  · rintro ⟨_, rfl, hname⟩
    obtain ⟨rfl, hrest⟩ := isName_pool.reads_iff.mp hname
    exact ⟨⟨_, List.mem_cons_self, rfl⟩, hrest⟩
  · rintro ⟨⟨stalk, hstalk, rfl⟩, hrest⟩
    rw [List.mem_singleton.mp hstalk]
    exact ⟨Text.spell "pool", rfl, isName_pool.reads_iff.mpr ⟨rfl, hrest⟩⟩

end

theorem poolDeref_sweep : PoolSweep Form.poolDeref.pattern
    [Text.spell "*pool", Text.spell "**pool"] (Text.spell "*state.pool") where
  old_stalk := by decide
  new_stalk := by decide
  apart := by decide
  reads := reads_poolDeref

theorem statePool_sweep : PoolSweep Form.statePool.pattern
    [Text.spell "*state.pool"] (Text.spell "*pool") where
  old_stalk := by decide
  new_stalk := by decide
  apart := by decide
  reads := reads_statePool

theorem poolViaState_action :
    poolViaState.action = .replace (.template (Text.spell "&*state.pool")) .all := by
  have hfresh : Text.spell "&*state.pool" = "&*state.pool".toList := Text.spell_eq _
  rw [hfresh]
  rfl

theorem poolViaState_apply (text : Text) : poolViaState.apply text =
    PoolSweep.sweep Form.poolDeref.pattern (Text.spell "*state.pool") text := by
  rw [Form.poolDeref.apply_rewrite rfl poolViaState_action (by decide) rfl, Replacement.acts_template]
  rfl

theorem authViaState_apply (text : Text) : authViaState.apply text = route none text := by
  rw [Form.authAccess.apply_rewrite rfl rfl rfl rfl, Replacement.acts_computed]
  rfl

theorem poolViaState_authViaState (text : Text) :
    poolViaState.apply (authViaState.apply text) = authViaState.apply (poolViaState.apply text) := by
  rw [poolViaState_apply, poolViaState_apply, authViaState_apply, authViaState_apply]
  exact poolDeref_sweep.comm route_sparesPool text none

end Recast.Catalog
