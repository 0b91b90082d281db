import Recast.Catalog.SeparateState
import Recast.Catalog.SharedState
import Recast.Proofs.Braced

/-! The patterns of the handler rules in a form that proofs can open. A form pairs the written form of
a pattern with the pattern itself, and with it what a rule with that pattern makes of a text. -/

namespace Recast.Catalog

def isIndent (c : Char) : Bool := c == ' ' || c == '\t'

def braceless (text : Text) : Bool := text.all fun c => c != '\x7b' && c != '\x7d'

theorem braceless_append (first second : Text) :
    braceless (first ++ second) = (braceless first && braceless second) :=
  List.all_append

theorem ne_brace_of_braceless {text : Text} (h : braceless text = true) :
    ∀ c ∈ text, c ≠ '\x7b' ∧ c ≠ '\x7d' := by
  intro c hc
  have hboth := List.all_eq_true.mp h c hc
  simpa using hboth

structure Form where
  source : Text
  pattern : Pattern
  read : (Regex.read? source).map (·.pattern) = some pattern := by
    repeat rw [String.toList_ofList]
    decide +kernel
  settled : pattern.settled = true := by decide +kernel
  consumes : pattern.consumes = true := by decide +kernel

namespace Form

open Pattern

def one (c : Char) : Pattern := char (.single c)

def blanks : Pattern := repeated (char .blank) ⟨0, none, false⟩

def indent : Pattern := repeated (char (.either (.single ' ') (.single '\t'))) ⟨0, none, false⟩

def lineEnd : Pattern :=
  seq (repeated (char (.either (.single ' ') (.single '\t'))) ⟨0, none, false⟩) (one '\n')

def without (c : Char) : Pattern := repeated (char (.neg (.single c))) ⟨0, none, false⟩

def wordEdge : Pattern := look (.wordEdge .unicode)

def letters : Pattern := repeated (char .word) ⟨1, none, false⟩

def between (opening closing : Char) : Pattern :=
  repeated (char (.neg (.either (.single opening) (.single closing)))) ⟨0, none, false⟩

def nested (opening closing : Char) (inner : Pattern) : Pattern :=
  repeated
    (alt (char (.neg (.either (.single opening) (.single closing))))
      (lit [opening] (seq inner (one closing))))
    ⟨0, none, false⟩

def rawPoolImports : Form where
  source := "use sqlx::PgPool;\\s*\\n\\s*use std::sync::Arc;[ \\t]*\\n".toList
  pattern :=
    lit (Text.spell "use sqlx::PgPool;")
      (seq blanks (lit ['\n'] (seq blanks (lit (Text.spell "use std::sync::Arc;") lineEnd))))

def frameworkLine : Form where
  source := "use axum::[^;]+;[ \\t]*\\n".toList
  pattern :=
    lit (Text.spell "use axum::")
      (seq (repeated (char (.neg (.single ';'))) ⟨1, none, false⟩) (lit [';'] lineEnd))

def frameworkOpening : Form where
  source := "use axum::\\\x7b".toList
  pattern := lit (Text.spell "use axum::") (one '\x7b')

def poolState : Form where
  source := "State\\(pool\\):\\s*State<Arc<PgPool>>".toList
  pattern := lit (Text.spell "State(pool):") (seq blanks (lit (Text.spell "State<Arc<PgPool>") (one '>')))

def authState : Form where
  source := ",\\s*State\\(auth\\):\\s*State<Arc<Auth>>".toList
  pattern :=
    lit [',']
      (seq blanks
        (lit (Text.spell "State(auth):") (seq blanks (lit (Text.spell "State<Arc<Auth>") (one '>')))))

def poolDeref : Form where
  source := "&\\*\\*?pool\\b".toList
  pattern :=
    lit (Text.spell "&*") (seq (repeated (one '*') ⟨0, some 1, false⟩) (lit (Text.spell "pool") wordEdge))

def receiver : Pattern := seq wordEdge (seq letters (one '.'))

def bareAuth : Pattern := seq wordEdge (lit (Text.spell "auth") (one '.'))

def authAccess : Form where
  source := "(?:\\b\\w+\\.)?\\bauth\\.".toList
  pattern := seq (repeated receiver ⟨0, some 1, false⟩) bareAuth

def poolStateAny : Form where
  source := "State\\(pool\\):\\s*State<(?:[^<>]|<(?:[^<>]|<[^<>]*>)*>)*>".toList
  pattern :=
    lit (Text.spell "State(pool):")
      (seq blanks
        (lit (Text.spell "State<")
          (seq (nested '<' '>' (nested '<' '>' (between '<' '>'))) (one '>'))))

def authImportLine : Form where
  source := "use crate::auth::Auth;[ \\t]*\\n".toList
  pattern := lit (Text.spell "use crate::auth::Auth;") lineEnd

def authLiteral : Form where
  source := "Auth[^;]*\\\x7b".toList
  pattern := lit (Text.spell "Auth") (seq (without ';') (one '\x7b'))

def extensionImport : Form where
  source :=
    "use axum::(?:Extension\\b|".toList
      ++ "\\\x7b(?:[^\x7b\x7d]|\\\x7b[^\x7b\x7d]*\\\x7d)*\\bExtension\\b)".toList
  pattern :=
    lit (Text.spell "use axum::")
      (alt (lit (Text.spell "Extension") wordEdge)
        (lit ['\x7b']
          (seq (nested '\x7b' '\x7d' (between '\x7b' '\x7d'))
            (seq wordEdge (lit (Text.spell "Extension") wordEdge)))))

def authOpening : Form where
  source := "use crate::auth::\\\x7b".toList
  pattern := lit (Text.spell "use crate::auth::") (one '\x7b')

def authName : Form where
  source := "use crate::auth::(\\w+);".toList
  pattern := lit (Text.spell "use crate::auth::") (seq (group 1 letters) (one ';'))

def authImport (name : Text) : Pattern :=
  lit (Text.spell "use crate::auth::")
    (alt (lit name wordEdge)
      (lit ['\x7b'] (seq (without '\x7d') (seq wordEdge (lit name wordEdge)))))

def claimsImport : Form where
  source := "use crate::auth::(?:Claims\\b|\\\x7b[^\x7d]*\\bClaims\\b)".toList
  pattern := authImport (Text.spell "Claims")

def authTypeImport : Form where
  source := "use crate::auth::(?:Auth\\b|\\\x7b[^\x7d]*\\bAuth\\b)".toList
  pattern := authImport (Text.spell "Auth")

def appStateLine : Form where
  source := "use crate::api::AppState;[ \\t]*\\n".toList
  pattern := lit (Text.spell "use crate::api::AppState;") lineEnd

def sharedState : Form where
  source := "State\\(state\\):\\s*State<AppState>".toList
  pattern := lit (Text.spell "State(state):") (seq blanks (lit (Text.spell "State<AppState") (one '>')))

def handlerHeader : Form where
  source := "pub async fn \\w+".toList
  pattern := lit (Text.spell "pub async fn ") letters

def statePool : Form where
  source := "&\\*state\\.pool\\b".toList
  pattern := lit (Text.spell "&*state.pool") wordEdge

def stateAuth : Form where
  source := "\\bstate\\.auth\\.".toList
  pattern := seq wordEdge (lit (Text.spell "state.auth") (one '.'))

def poolImportLine : Form where
  source := "use sqlx::PgPool;[ \\t]*\\n".toList
  pattern := lit (Text.spell "use sqlx::PgPool;") lineEnd

def arcImportLine : Form where
  source := "use std::sync::Arc;[ \\t]*\\n".toList
  pattern := lit (Text.spell "use std::sync::Arc;") lineEnd

section

variable {prev : Option Char} {text rest : Text}

theorem reads_indent : indent.Reads prev text rest ↔ ∀ c ∈ text, isIndent c = true := by
  have hclass (c : Char) : (CharClass.either (.single ' ') (.single '\t')).has c = true ↔
      isIndent c = true := by
    rw [CharClass.has, Bool.or_eq_true, CharClass.has_single, CharClass.has_single]
    simp [isIndent]
  rw [indent, reads_many]
  constructor
  · rintro ⟨-, hall⟩ c hc
    exact (hclass c).mp (hall c hc)
  · intro hall
    exact ⟨Nat.zero_le _, fun c hc => (hclass c).mpr (hall c hc)⟩

theorem reads_blanks (h : blanks.Reads prev text rest) :
    ∀ c ∈ text, CharClass.blank.has c = true :=
  (reads_many.mp h).2

end

variable (form : Form)

theorem valid : (Regex.read? form.source).isSome = true := by
  obtain ⟨regex, hr, -⟩ := Option.map_eq_some_iff.mp form.read
  rw [hr]
  rfl

theorem pattern_ofText {valid : (Regex.read? form.source).isSome = true} :
    (Regex.ofText form.source valid).pattern = form.pattern := by
  obtain ⟨regex, hr, hp⟩ := Option.map_eq_some_iff.mp form.read
  simp [Regex.ofText, hr, hp]

section

variable {rule : Rule} {text : Text} {valid : (Regex.read? form.source).isSome = true}
  (hm : rule.matcher = .regex (.ofText form.source valid))

include hm

theorem apply_rewrite {new : Replacement} (ha : rule.action = .replace new .all)
    (hn : new.isPlain = true) (hg : rule.guard.holds text = true) :
    rule.apply text = form.pattern.rewrite new.acts text :=
  Rule.apply_rewrite hm ha form.pattern_ofText form.settled form.consumes hn hg

theorem apply_swept {new : Replacement} {allowed : Text → Text → Prop}
    (ha : rule.action = .replace new .all) (hg : rule.guard.holds text = true)
    (h : ∀ {front found after hit}, text = front ++ (found ++ after) →
      form.pattern.matchAt? ⟨front.length, Text.lastFrom none front, found ++ after⟩ = some hit →
        hit.span = ⟨front.length, front.length + found.length⟩ →
          allowed found (new.fill (.ofText form.source valid) hit text)) :
    Swept form.pattern allowed none text (rule.apply text) :=
  Rule.apply_swept hm ha form.pattern_ofText form.settled form.consumes hg h

theorem apply_insertAfter {new before found after : Text} (ha : rule.action = .insert new .after)
    (hg : rule.guard.holds text = true) (hf : form.pattern.First none text before found after) :
    rule.apply text = before ++ found ++ new ++ after :=
  Rule.apply_insertAfter hm ha form.pattern_ofText form.settled hg hf

theorem apply_of_not_occurs (h : form.pattern.occurs none text = false) :
    rule.apply text = text :=
  Rule.apply_of_not_occurs hm form.pattern_ofText form.settled form.consumes h

end

section

variable {rule : Rule} {text : Text} {valid : (Regex.read? form.source).isSome = true}
  (hm : rule.matcher = .braced (.ofText form.source valid))

include hm

theorem apply_rewriteItems {new : Replacement} (ha : rule.action = .replace new .all)
    (hg : rule.guard.holds text = true) :
    rule.apply text = form.pattern.rewriteItems new.acts 0 none text :=
  Rule.apply_rewriteItems hm form.pattern_ofText form.settled form.consumes ha hg

theorem apply_firstItem {new : Replacement} {before found after : Text} {m : Nat}
    (ha : rule.action = .replace new .first) (hg : rule.guard.holds text = true)
    (hf : form.pattern.First none text before found after)
    (hclose : Matcher.closing? 0 0 (found ++ after) = some m) :
    rule.apply text =
      before ++ new.acts ((found ++ after).take m) ++ (found ++ after).drop m :=
  Rule.apply_firstItem hm form.pattern_ofText form.settled form.consumes ha hg hf hclose

theorem apply_of_no_header (h : form.pattern.occurs none text = false) : rule.apply text = text :=
  Rule.apply_of_no_header hm form.pattern_ofText form.settled form.consumes h

end

theorem isMatch {valid : (Regex.read? form.source).isSome = true} (text : Text) :
    (Matcher.regex (.ofText form.source valid)).isMatch text = form.pattern.occurs none text :=
  Matcher.isMatch_regex form.pattern_ofText form.settled text

end Form

theorem extensionUnimported_holds (text : Text) :
    extensionUnimported.holds text = !Form.extensionImport.pattern.occurs none text := by
  simp only [extensionUnimported, Guard.holds]
  exact congrArg (!·) (Form.extensionImport.isMatch text)

theorem claimsUnimported_holds (text : Text) :
    claimsUnimported.holds text =
      ((Text.within "claims: Claims".toList text || Text.within "Claims,".toList text) &&
        !Form.claimsImport.pattern.occurs none text) := by
  simp only [claimsUnimported, Guard.holds, Guard.allHold, Guard.anyHolds, Bool.or_false,
    Bool.and_true]
  exact congrArg (_ && !·) (Form.claimsImport.isMatch text)

theorem authUnimported_holds (text : Text) :
    authUnimported.holds text =
      (Text.within "Arc<Auth>".toList text && !Form.authTypeImport.pattern.occurs none text) := by
  simp only [authUnimported, Guard.holds, Guard.allHold, Bool.and_true]
  exact congrArg (_ && !·) (Form.authTypeImport.isMatch text)

theorem imports_unneeded {text : Text} (hextension : Text.within "Extension(".toList text = false)
    (htyped : Text.within "claims: Claims".toList text = false)
    (hlisted : Text.within "Claims,".toList text = false) :
    ∀ rule ∈ fixHandlers.rules.drop 8, rule.apply text = text := by
  have hclaims : claimsUnimported.holds text = false := by
    rw [claimsUnimported_holds, htyped, hlisted]
    rfl
  intro rule hr
  refine Rule.apply_of_guard_false ?_
  simp only [fixHandlers, RuleSet.ofRules, List.drop_succ_cons, List.drop_zero, List.mem_cons,
    List.not_mem_nil, or_false] at hr
  rcases hr with rfl | rfl | rfl | rfl | rfl
  · change Guard.holds (.all [.contains "Extension(".toList, extensionUnimported]) _ = false
    rw [Guard.holds, Guard.allHold, Guard.holds, hextension, Bool.false_and]
  · change Guard.holds (.all (.contains "Extension(".toList :: _)) _ = false
    rw [Guard.holds, Guard.allHold, Guard.holds, hextension, Bool.false_and]
  · exact hclaims
  · exact hclaims
  · change Guard.holds (.all (claimsUnimported :: _)) _ = false
    rw [Guard.holds, Guard.allHold, hclaims, Bool.false_and]

end Recast.Catalog
