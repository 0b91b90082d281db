import Recast.Catalog.ColumnTypes
import Recast.Catalog.Leftovers
import Recast.Proofs.Catalog.Form
import Recast.Proofs.Pattern.Beside

/-! The repairs settle: what they leave gives none of their rules anything to do. A repair puts a
piece of text in place of every match of its pattern, and no match reaches into such a piece. -/

namespace Recast.Catalog

open Pattern

namespace Form

def poolDouble : Form where
  source := "&\\*\\*pool\\b".toList
  pattern := lit (Text.spell "&**pool") wordEdge

def staleUserCall : Form where
  source := "get_user\\(State\\(state\\), Path\\(user_id\\)\\)\\.await".toList
  pattern := lit (Text.spell "get_user(State(state), Path(user_id)).awai") (one 't')

def managerFields : Form where
  source := "plugins: RwLock::new\\(HashMap::new\\(\\)\\),\\s*directory: config\\.directory,".toList
  pattern :=
    lit (Text.spell "plugins: RwLock::new(HashMap::new()),")
      (seq blanks (lit (Text.spell "directory: config.directory") (one ',')))

def managerCall : Form where
  source :=
    "let plugin_manager = Arc::new\\(PluginManager::new".toList
      ++ "\\(&config\\.plugins\\.directory\\)\\);".toList
  pattern :=
    lit (Text.spell "let plugin_manager = Arc::new(PluginManager::new(&config.plugins.directory))")
      (one ';')

section

variable (form : Form)

structure Fills (act : Text → Text) (text found fresh : Text) : Prop where
  placed : ∃ front after, text = front ++ (found ++ after) ∧
    form.pattern.Reads (Text.lastFrom none front) found after
  fresh : fresh = act found

variable {rule : Rule} {text : Text}
  {valid : (Regex.read? form.source).isSome = true}
  (hm : rule.matcher = .regex (.ofText form.source valid))

include hm

theorem patched_apply {new : Replacement} (ha : rule.action = .replace new .all)
    (hn : new.isPlain = true) : Patched (form.Fills new.acts text) text (rule.apply text) := by
  by_cases hg : rule.guard.holds text = true
  · have hswept : Swept form.pattern (form.Fills new.acts text) none text (rule.apply text) := by
      refine form.apply_swept hm ha hg fun {front found after hit} htext hhit hspan =>
        ⟨⟨front, after, htext, reads_of_hit hhit hspan⟩, ?_⟩
      rw [Replacement.fill_plain hn, hspan, htext, Span.slice_found]
    exact hswept.patched fun h => Patched.single h
  · rw [Rule.apply_of_guard_false (by simpa using hg)]
    exact .refl text

/-- A rule without a condition that puts pieces that are shut in place of all matches leaves none. -/
theorem not_occurs_apply {new : Replacement} (allowed : Text → Text → Prop)
    (hg : rule.guard = .always) (ha : rule.action = .replace new .all)
    (hfill : ∀ {front found after hit}, text = front ++ (found ++ after) →
      form.pattern.matchAt? ⟨front.length, Text.lastFrom none front, found ++ after⟩ = some hit →
        hit.span = ⟨front.length, front.length + found.length⟩ →
          allowed found (new.fill (.ofText form.source valid) hit text))
    (hfresh : ∀ {found fresh}, allowed found fresh →
      form.pattern.Shut fresh ∧ form.pattern.Blind found fresh) :
    form.pattern.occurs none (rule.apply text) = false := by
  have hholds : rule.guard.holds text = true := by
    rw [hg]
    rfl
  exact (form.apply_swept hm ha hholds hfill).not_occurs form.consumes hfresh

theorem swept_fixed {fresh : Text} (hg : rule.guard = .always)
    (ha : rule.action = .replace (.template fresh) .all) (hn : fresh.contains '$' = false) :
    Swept form.pattern (fun found new =>
      (∃ prev rest, form.pattern.Reads prev found rest) ∧ new = fresh) none text
        (rule.apply text) := by
  have hholds : rule.guard.holds text = true := by
    rw [hg]
    rfl
  refine form.apply_swept hm ha hholds fun _ hhit hspan => ⟨⟨_, _, reads_of_hit hhit hspan⟩, ?_⟩
  rw [Replacement.fill_plain (by rw [Replacement.isPlain, hn]; rfl)]
  rfl

theorem not_occurs_apply_fixed {fresh : Text} (hg : rule.guard = .always)
    (ha : rule.action = .replace (.template fresh) .all) (hn : fresh.contains '$' = false)
    (hshut : form.pattern.Shut fresh)
    (hblind : ∀ {prev found rest}, form.pattern.Reads prev found rest →
      form.pattern.Blind found fresh) :
    form.pattern.occurs none (rule.apply text) = false := by
  refine (form.swept_fixed hm hg ha hn).not_occurs form.consumes ?_
  rintro found _ ⟨⟨prev, rest, hreads⟩, rfl⟩
  exact ⟨hshut, hblind hreads⟩

/-- A rule without a condition that puts a fixed text in place of all matches makes no match of another
pattern if the fixed text is shut for it. -/
theorem kept_apply_fixed {fresh : Text} {pattern : Pattern} (hg : rule.guard = .always)
    (ha : rule.action = .replace (.template fresh) .all) (hn : fresh.contains '$' = false)
    (hshut : pattern.Shut fresh)
    (hblind : ∀ {prev found rest}, form.pattern.Reads prev found rest → pattern.Blind found fresh)
    (hno : pattern.occurs none text = false) : pattern.occurs none (rule.apply text) = false := by
  refine ((form.swept_fixed hm hg ha hn).patched fun h => Patched.single h).not_occurs ?_ hno
  rintro found _ ⟨⟨prev, rest, hreads⟩, rfl⟩
  exact ⟨hshut, hblind hreads⟩

theorem settles {set : RuleSet} (hset : set.rules = [rule])
    (h : ∀ text, form.pattern.occurs none (rule.apply text) = false) : set.Settles := by
  refine RuleSet.settles_of_rests
    [(rule, fun text => form.pattern.occurs none text = false)] hset ?_ ?_ ?_
  · intro step hs text hrest
    obtain rfl := List.mem_singleton.mp hs
    exact form.apply_of_not_occurs hm hrest
  · intro step hs text
    obtain rfl := List.mem_singleton.mp hs
    exact h text
  · intro step hs other ho text _
    obtain rfl := List.mem_singleton.mp hs
    obtain rfl := List.mem_singleton.mp ho
    exact h text

end

end Form

theorem Form.poolDouble_reads {prev : Option Char} {found rest : Text}
    (h : Form.poolDouble.pattern.Reads prev found rest) : found = Text.spell "&**pool" := by
  obtain ⟨more, rfl, hmore⟩ := reads_lit.mp h
  obtain ⟨rfl, -⟩ := reads_look.mp hmore
  rw [List.append_nil]

theorem fixAuthHandler_settles : fixAuthHandler.Settles := by
  have hshut : Form.poolDouble.pattern.Shut (Text.spell "&*pool") := by
    refine ⟨by decide, stops_of_clears ?_, begins_lit.quiet (by decide)⟩
    intro prev found rest hreads
    rw [Form.poolDouble_reads hreads]
    decide
  refine Form.poolDouble.settles rfl rfl fun text =>
    Form.poolDouble.not_occurs_apply_fixed rfl rfl rfl (by decide) hshut ?_
  intro prev found rest hreads
  rw [Form.poolDouble_reads hreads]
  exact blind_of_edged (by decide) (by decide) (by decide)

/-- A fixed text that is replaced by another one which does not overlap with it. -/
theorem settles_fixed (form : Form) {set : RuleSet} {rule : Rule} {old new : Text} {last : Char}
    {valid : (Regex.read? form.source).isSome = true} (hset : set.rules = [rule])
    (hm : rule.matcher = .regex (.ofText form.source valid))
    (ha : rule.action = .replace (.template new) .all) (hg : rule.guard = .always)
    (hp : form.pattern = lit old (Form.one last)) (hn : new.contains '$' = false)
    (hne : new ≠ []) (hend : new.clears (old ++ [last]).tail = true)
    (hbegin : old.clears new = true) : set.Settles := by
  have hshut : form.pattern.Shut new := by
    rw [hp]
    refine ⟨hne, stops_of_clears ?_, begins_lit.quiet hbegin⟩
    intro prev found rest hreads
    obtain ⟨more, rfl, hmore⟩ := reads_lit.mp hreads
    obtain ⟨c, rfl, hc⟩ := reads_char.mp hmore
    rw [CharClass.has_single.mp hc]
    exact hend
  have hlook : form.pattern.lookless = true := by
    rw [hp]
    clear hp hend hbegin
    induction old with
    | nil => rfl
    | cons c old ih => exact ih
  exact form.settles hm hset fun text =>
    form.not_occurs_apply_fixed hm hg ha hn hshut fun _ => blind_of_lookless form.settled hlook

theorem finalFixUser_settles : finalFixUser.Settles :=
  settles_fixed Form.staleUserCall rfl rfl rfl rfl rfl (by decide) (by decide) (by decide)
    (by decide)

theorem finalFixMain_settles : finalFixMain.Settles :=
  settles_fixed Form.managerCall rfl rfl rfl rfl rfl (by decide) (by decide) (by decide)
    (by decide)

theorem importHashMap_find? (text : Text) : importHashMap.matcher.find? text = some ⟨0, 0⟩ := by
  have hpattern : (Regex.ofText "\\A".toList).pattern = look .textStart := by decide +kernel
  have hfind : (look .textStart).find? text = some ⟨⟨0, 0⟩, []⟩ := by
    rw [find?_eq_leftmost? (by decide)]
    cases text <;> rfl
  change (Matcher.regex (.ofText "\\A".toList)).find? text = _
  rw [Matcher.find?, hpattern, hfind]
  rfl

theorem importHashMap_apply (text : Text) :
    importHashMap.apply text =
      if hashMapImport.within text then text else hashMapImport ++ '\n' :: text := by
  cases hw : hashMapImport.within text with
  | true =>
    rw [if_pos rfl]
    refine Rule.apply_of_guard_false ?_
    change (!hashMapImport.within text) = false
    rw [hw]
    rfl
  | false =>
    have hg : importHashMap.guard.holds text = true := by
      change (!hashMapImport.within text) = true
      rw [hw]
      rfl
    rw [if_neg (by decide), Rule.apply_of_insert rfl hg]
    change ((importHashMap.matcher.find? text).map _).getD text = _
    rw [importHashMap_find?]
    simp [Rule.insertAt]

def configField : Text := Text.spell "config,"

theorem Form.managerFields_reads {prev : Option Char} {found rest : Text}
    (h : Form.managerFields.pattern.Reads prev found rest) :
    ∃ blanks, (∀ c ∈ blanks, CharClass.blank.has c = true) ∧
      found = Text.spell "plugins: RwLock::new(HashMap::new())," ++
        (blanks ++ Text.spell "directory: config.directory,") := by
  obtain ⟨more, rfl, hmore⟩ := reads_lit.mp h
  obtain ⟨blanks, last, rfl, hblanks, hlast⟩ := reads_seq.mp hmore
  obtain ⟨end', rfl, hend⟩ := reads_lit.mp hlast
  obtain ⟨c, rfl, hc⟩ := reads_char.mp hend
  rw [CharClass.has_single.mp hc]
  exact ⟨blanks, Form.reads_blanks hblanks, rfl⟩

theorem Form.managerFields_shut : Form.managerFields.pattern.Shut configField := by
  refine ⟨by decide, stops_of_clears ?_, begins_lit.quiet (by decide)⟩
  intro prev found rest hreads
  obtain ⟨blanks, hblanks, rfl⟩ := Form.managerFields_reads hreads
  have hblank : configField.clears blanks = true := by
    refine Text.clears_of_head_notin fun hc => ?_
    exact absurd (hblanks _ hc) (by decide)
  exact Text.clears_append (by decide) (Text.clears_append hblank (by decide))

theorem pluginManagerFields_apply (text : Text) :
    Form.managerFields.pattern.occurs none (pluginManagerFields.apply text) = false :=
  Form.managerFields.not_occurs_apply_fixed rfl rfl rfl (by decide) Form.managerFields_shut
    fun _ => blind_of_lookless (by decide) (by decide)

/-- The import does not reach into a piece that ends with a comma and has no semicolon. -/
theorem shut_hashMapImport {piece : Text} (hlast : piece.getLast? = some ',') (h : ';' ∉ piece) :
    (exactly hashMapImport).Shut piece :=
  shut_of_last (by decide) hlast h (by decide)

/-- The fields of the plugin manager are no part of the import, and neither is what takes their
place. -/
theorem within_pluginManagerFields (text : Text) :
    hashMapImport.within (pluginManagerFields.apply text) = hashMapImport.within text := by
  have hfresh : (exactly hashMapImport).Shut configField := shut_hashMapImport rfl (by decide)
  refine (Form.managerFields.patched_apply rfl rfl (by decide)).within_eq ?_
  rintro old _ ⟨⟨front, after, -, hreads⟩, rfl⟩
  obtain ⟨blanks, hblanks, rfl⟩ := Form.managerFields_reads hreads
  have hblank : ';' ∉ blanks := fun hmem => absurd (hblanks _ hmem) (by decide)
  have hfields : ';' ∉ Text.spell "plugins: RwLock::new(HashMap::new())," := by decide
  have hdirectory : ';' ∉ Text.spell "directory: config.directory," := by decide
  refine ⟨shut_hashMapImport ?_ ?_, hfresh⟩
  · rw [List.getLast?_append, List.getLast?_append]
    rfl
  · simp only [List.mem_append, not_or]
    exact ⟨hfields, hblank, hdirectory⟩

theorem not_occurs_importHashMap {text : Text}
    (h : Form.managerFields.pattern.occurs none text = false) :
    Form.managerFields.pattern.occurs none (importHashMap.apply text) = false := by
  rw [importHashMap_apply]
  split
  · exact h
  · have hquiet : Form.managerFields.pattern.Quiet none (hashMapImport ++ ['\n']) :=
      begins_lit.quiet (by decide) none
    have hline : hashMapImport ++ '\n' :: text = (hashMapImport ++ ['\n']) ++ text := by simp
    rw [hline, hquiet.occurs_append]
    refine Bool.eq_false_iff.mpr fun hyes => Bool.eq_false_iff.mp h ?_
    rw [occurs_iff_within] at hyes ⊢
    exact hyes.alike Form.managerFields.settled (by decide) (alike_lookless _ _ _ _)

theorem finalFixPlugins_settles : finalFixPlugins.Settles := by
  have himport (text : Text) : hashMapImport.within (importHashMap.apply text) = true := by
    rw [importHashMap_apply]
    split
    · assumption
    · rw [Text.within_iff_isInfix]
      exact (List.prefix_append _ _).isInfix
  refine RuleSet.settles_of_rests
    [(importHashMap, fun text => hashMapImport.within text = true),
      (pluginManagerFields, fun text => Form.managerFields.pattern.occurs none text = false)]
    rfl ?_ ?_ ?_
  · intro step hs text hrest
    simp only [List.mem_cons, List.not_mem_nil, or_false] at hs
    rcases hs with rfl | rfl
    · rw [importHashMap_apply, if_pos hrest]
    · exact Form.managerFields.apply_of_not_occurs rfl hrest
  · intro step hs text
    simp only [List.mem_cons, List.not_mem_nil, or_false] at hs
    rcases hs with rfl | rfl
    · exact himport text
    · exact pluginManagerFields_apply text
  · intro step hs other ho text hrest
    simp only [List.mem_cons, List.not_mem_nil, or_false] at hs ho
    rcases hs with rfl | rfl <;> rcases ho with rfl | rfl
    · exact himport text
    · exact (within_pluginManagerFields text).trans hrest
    · exact not_occurs_importHashMap hrest
    · exact pluginManagerFields_apply text

end Recast.Catalog
