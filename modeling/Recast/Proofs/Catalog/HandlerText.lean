import Recast.Proofs.Catalog.Form
import Recast.Proofs.Pattern.Chunk

/-! The files that request handlers are written in. A handler is a name and a list of calls; a
convention says how its parameters, its calls and the imports of its file are spelled. A rewriting
that treats each piece of the spelling on its own turns files of one convention into files of
another. -/

namespace Recast.Catalog

def isNameChar (c : Char) : Bool := c.isLower || c = '_'

theorem isWord_of_isNameChar {c : Char} (h : isNameChar c = true) : Text.isWord c = true := by
  rcases Bool.or_eq_true_iff.mp h with hlower | hline
  · have hlow : c.toNat < 0x80 := by
      have hz : c.toNat ≤ 'z'.toNat := (of_decide_eq_true (Bool.and_eq_true_iff.mp hlower).2)
      exact Nat.lt_of_le_of_lt hz (by decide)
    have halpha : c.isAlpha = true := by
      change (c.isUpper || c.isLower) = true
      rw [hlower, Bool.or_true]
    simp [Text.isWord, hlow, Char.isAlphanum, halpha]
  · obtain rfl : c = '_' := of_decide_eq_true hline
    decide

structure Identifier where
  chars : Text
  nonempty : chars ≠ []
  lower : ∀ c ∈ chars, isNameChar c = true

inductive Statement where
  | pool (function : Identifier) (twice : Bool)
  | auth (function : Identifier)
  | plain (function : Identifier)

structure Handler where
  name : Identifier
  body : List Statement

/-- How handlers reach the pool and auth. The import and the parameter for auth are those that a file or a
handler has only if it uses auth. -/
structure Convention where
  imports : Text
  authImport : Text
  poolParam : Text
  authParam : Text
  poolOnce : Text
  poolTwice : Text
  auth : Text

def Statement.usesAuth : Statement → Bool
  | pool _ _ => false
  | auth _ => true
  | plain _ => false

def Handler.usesAuth (handler : Handler) : Bool := handler.body.any Statement.usesAuth

def header : Text := Text.spell "pub async fn "

def paren : Text := Text.spell "("

def newline : Text := Text.spell "\n"

def indent : Text := Text.spell "    "

def finish : Text := Text.spell ");\n"

def bodyStart : Text := Text.spell ") \x7b\n"

def bodyEnd : Text := Text.spell "\x7d\n"

namespace Convention

variable (convention : Convention)

def statement : Statement → Text
  | .pool function twice =>
    indent ++ function.chars ++ paren
      ++ (if twice then convention.poolTwice else convention.poolOnce) ++ finish
  | .auth function => indent ++ convention.auth ++ function.chars ++ paren ++ finish
  | .plain function => indent ++ function.chars ++ paren ++ finish

def handler (h : Handler) : Text :=
  header ++ h.name.chars ++ paren ++ newline ++ convention.poolParam
    ++ (if h.usesAuth then convention.authParam else []) ++ bodyStart
    ++ h.body.flatMap convention.statement ++ bodyEnd

def file (handlers : List Handler) : Text :=
  convention.imports ++ (if handlers.any Handler.usesAuth then convention.authImport else [])
    ++ handlers.flatMap convention.handler

end Convention

/-- Pool and auth are separate parameters that are extracted as state. -/
def separate : Convention where
  imports := Text.spell "use axum::\x7bextract::State, Json\x7d;\nuse sqlx::PgPool;\nuse std::sync::Arc;\n"
  authImport := Text.spell "use crate::auth::Auth;\n"
  poolParam := Text.spell "    State(pool): State<Arc<PgPool>>,\n"
  authParam := Text.spell "    State(auth): State<Arc<Auth>>,\n"
  poolOnce := Text.spell "&*pool"
  poolTwice := Text.spell "&**pool"
  auth := Text.spell "auth."

/-- One parameter holds pool and auth. -/
def shared : Convention where
  imports := Text.spell "use axum::\x7bextract::State, Json\x7d;\nuse crate::api::AppState;\n"
  authImport := []
  poolParam := Text.spell "    State(state): State<AppState>,\n"
  authParam := []
  poolOnce := Text.spell "&*state.pool"
  poolTwice := Text.spell "&*state.pool"
  auth := Text.spell "state.auth."

/-- Pool and auth are separate parameters that are extracted as extensions. -/
def extension : Convention where
  imports :=
    (Text.spell "use axum::\x7bextract::State, Json, Extension\x7d;\n"
      ++ Text.spell "use sqlx::PgPool;\nuse std::sync::Arc;\n")
  authImport := Text.spell "use crate::auth::Auth;\n"
  poolParam := Text.spell "    Extension(pool): Extension<Arc<PgPool>>,\n"
  authParam := Text.spell "    Extension(auth): Extension<Arc<Auth>>,\n"
  poolOnce := Text.spell "&*pool"
  poolTwice := Text.spell "&*pool"
  auth := Text.spell "auth."

namespace Convention

def rest (convention : Convention) (handlers : List Handler) : Text :=
  (if handlers.any Handler.usesAuth then convention.authImport else [])
    ++ handlers.flatMap convention.handler

theorem file_eq (convention : Convention) (handlers : List Handler) :
    convention.file handlers = convention.imports ++ convention.rest handlers :=
  List.append_assoc _ _ _

theorem rest_with_imports (convention : Convention) (imports : Text) (handlers : List Handler) :
    rest { convention with imports := imports } handlers = convention.rest handlers :=
  rfl

theorem file_with_authImport (convention : Convention) (authImport : Text)
    {handlers : List Handler} (h : handlers.any Handler.usesAuth = false) :
    file { convention with authImport := authImport } handlers = convention.file handlers := by
  simp only [file, h]
  rfl

/-- A file that uses auth is one without the import of auth and the import in its place. -/
theorem file_eq_of_used (convention : Convention) {handlers : List Handler}
    (h : handlers.any Handler.usesAuth = true) :
    convention.file handlers =
      convention.imports ++ convention.authImport
        ++ rest { convention with authImport := [] } handlers := by
  simp only [file, rest, h, if_true]
  rfl

theorem statements_with_auth (convention : Convention) (auth : Text) {body : List Statement}
    (h : body.any Statement.usesAuth = false) :
    body.flatMap (statement { convention with auth := auth }) = body.flatMap convention.statement := by
  induction body with
  | nil => rfl
  | cons s body ih =>
    obtain ⟨hs, hbody⟩ : s.usesAuth = false ∧ body.any Statement.usesAuth = false := by
      simpa only [List.any_cons, Bool.or_eq_false_iff] using h
    rw [List.flatMap_cons, List.flatMap_cons, ih hbody]
    cases s with
    | auth function => cases hs
    | pool function twice => rfl
    | plain function => rfl

theorem file_with_authParam (convention : Convention) (authParam : Text) {handlers : List Handler}
    (h : handlers.any Handler.usesAuth = false) :
    file { convention with authParam := authParam } handlers = convention.file handlers := by
  have hsame : handlers.flatMap (handler { convention with authParam := authParam }) =
      handlers.flatMap convention.handler := by
    induction handlers with
    | nil => rfl
    | cons f handlers ih =>
      obtain ⟨hf, hrest⟩ : f.usesAuth = false ∧ handlers.any Handler.usesAuth = false := by
        simpa only [List.any_cons, Bool.or_eq_false_iff] using h
      rw [List.flatMap_cons, List.flatMap_cons, ih hrest]
      simp only [handler, hf]
      rfl
  exact congrArg (_ ++ ·) hsame

theorem authImport_infix (convention : Convention) {handlers : List Handler}
    (h : handlers.any Handler.usesAuth = true) :
    convention.authImport <:+: convention.file handlers := by
  refine ⟨convention.imports, handlers.flatMap convention.handler, ?_⟩
  simp [file, h]

theorem infix_flatMap {α : Type} {f : α → Text} {x : α} {xs : List α} (h : x ∈ xs) :
    f x <:+: xs.flatMap f := by
  obtain ⟨before, after, rfl⟩ := List.append_of_mem h
  exact ⟨before.flatMap f, after.flatMap f, by simp⟩

theorem handler_infix (convention : Convention) {handlers : List Handler} {h : Handler}
    (hh : h ∈ handlers) : convention.handler h <:+: convention.file handlers :=
  (infix_flatMap hh).trans (List.suffix_append _ _).isInfix

theorem poolParam_infix (convention : Convention) {handlers : List Handler} (h : handlers ≠ []) :
    convention.poolParam <:+: convention.file handlers := by
  obtain ⟨f, handlers, rfl⟩ := List.exists_cons_of_ne_nil h
  refine List.IsInfix.trans ?_ (convention.handler_infix List.mem_cons_self)
  refine ⟨header ++ f.name.chars ++ paren ++ newline, ?_, ?_⟩
  · exact (if f.usesAuth then convention.authParam else []) ++ bodyStart
      ++ f.body.flatMap convention.statement ++ bodyEnd
  · simp only [handler, List.append_assoc]

theorem authParam_infix (convention : Convention) {handlers : List Handler}
    (h : handlers.any Handler.usesAuth = true) :
    convention.authParam <:+: convention.file handlers := by
  obtain ⟨f, hf, hused⟩ := List.any_eq_true.mp h
  refine List.IsInfix.trans ?_ (convention.handler_infix hf)
  refine ⟨header ++ f.name.chars ++ paren ++ newline ++ convention.poolParam,
    bodyStart ++ f.body.flatMap convention.statement ++ bodyEnd, ?_⟩
  simp only [handler, hused, if_true, List.append_assoc]

theorem auth_infix_statements (convention : Convention) {h : Handler} (hused : h.usesAuth = true) :
    convention.auth <:+: h.body.flatMap convention.statement := by
  obtain ⟨s, hs, hauth⟩ := List.any_eq_true.mp hused
  refine List.IsInfix.trans ?_ (infix_flatMap hs)
  cases s with
  | pool function twice => cases hauth
  | plain function => cases hauth
  | auth function =>
    refine ⟨indent, function.chars ++ paren ++ finish, ?_⟩
    simp [statement]

theorem auth_infix (convention : Convention) {handlers : List Handler}
    (h : handlers.any Handler.usesAuth = true) :
    convention.auth <:+: convention.file handlers := by
  obtain ⟨f, hf, hused⟩ := List.any_eq_true.mp h
  have hstatements : f.body.flatMap convention.statement <:+: convention.handler f :=
    List.infix_append _ _ _
  exact (convention.auth_infix_statements hused).trans
    (hstatements.trans (convention.handler_infix hf))

def opening (convention : Convention) (used : Bool) : Text :=
  convention.imports ++ (if used then convention.authImport else [])

def params (convention : Convention) (used : Bool) : Text :=
  newline ++ convention.poolParam ++ (if used then convention.authParam else []) ++ bodyStart

def argument (convention : Convention) (twice : Bool) : Text :=
  (if twice then convention.poolTwice else convention.poolOnce) ++ finish

end Convention

def Identifier.called (name : Identifier) : Text := name.chars ++ paren

structure Piecewise (P : Option Char → Text → Text → Prop) : Prop where
  nil : ∀ prev, P prev [] []
  append : ∀ {prev first second out out'}, P prev first out →
    P (Text.lastFrom prev first) second out' → P prev (first ++ second) (out ++ out')

structure Pieces (P : Option Char → Text → Text → Prop) (old new : Convention) : Prop where
  opening : ∀ used, P none (old.opening used) (new.opening used)
  line : ∀ used, Text.lastFrom none (old.opening used) = some '\n'
  header : P (some '\n') header header
  name : ∀ prev (f : Identifier), P prev f.called f.called
  params : ∀ used, P (some '(') (old.params used) (new.params used)
  indent : P (some '\n') indent indent
  argument : ∀ twice, P (some '(') (old.argument twice) (new.argument twice)
  auth : ∀ f : Identifier, P (some ' ') (old.auth ++ f.called) (new.auth ++ f.called)
  finish : P (some '(') finish finish
  closing : P (some '\n') bodyEnd bodyEnd

theorem lastFrom_paren (prev : Option Char) : Text.lastFrom prev paren = some '(' := rfl

theorem lastFrom_indent (prev : Option Char) : Text.lastFrom prev indent = some ' ' := rfl

theorem lastFrom_finish (prev : Option Char) : Text.lastFrom prev finish = some '\n' := rfl

theorem lastFrom_bodyStart (prev : Option Char) : Text.lastFrom prev bodyStart = some '\n' := rfl

theorem lastFrom_bodyEnd (prev : Option Char) : Text.lastFrom prev bodyEnd = some '\n' := rfl

theorem lastFrom_called (prev : Option Char) (f : Identifier) :
    Text.lastFrom prev f.called = some '(' := by
  rw [Identifier.called, Text.lastFrom_append, lastFrom_paren]

theorem lastFrom_params (prev : Option Char) (convention : Convention) (used : Bool) :
    Text.lastFrom prev (convention.params used) = some '\n' := by
  rw [Convention.params, Text.lastFrom_append, lastFrom_bodyStart]

theorem lastFrom_statement (prev : Option Char) (convention : Convention) (s : Statement) :
    Text.lastFrom prev (convention.statement s) = some '\n' := by
  cases s <;> rw [Convention.statement, Text.lastFrom_append, lastFrom_finish]

theorem lastFrom_statements (convention : Convention) (body : List Statement) :
    Text.lastFrom (some '\n') (body.flatMap convention.statement) = some '\n' := by
  induction body with
  | nil => rfl
  | cons s body ih => rw [List.flatMap_cons, Text.lastFrom_append, lastFrom_statement, ih]

theorem lastFrom_handler (prev : Option Char) (convention : Convention) (h : Handler) :
    Text.lastFrom prev (convention.handler h) = some '\n' := by
  rw [Convention.handler, Text.lastFrom_append, lastFrom_bodyEnd]

namespace Pieces

variable {P : Option Char → Text → Text → Prop} {old new : Convention}
  (hP : Piecewise P) (h : Pieces P old new)

include hP h

theorem statement (s : Statement) : P (some '\n') (old.statement s) (new.statement s) := by
  cases s with
  | pool function twice =>
    have hcall := hP.append h.indent
      (hP.append (h.name _ function) (lastFrom_called _ function ▸ h.argument twice))
    simpa only [Convention.statement, Convention.argument, Identifier.called,
      List.append_assoc] using hcall
  | auth function =>
    have hlast : Text.lastFrom (some ' ') (old.auth ++ function.called) = some '(' := by
      rw [Text.lastFrom_append, lastFrom_called]
    have hcall := hP.append h.indent
      (lastFrom_indent _ ▸ hP.append (h.auth function) (hlast ▸ h.finish))
    simpa only [Convention.statement, Identifier.called, List.append_assoc] using hcall
  | plain function =>
    have hcall := hP.append h.indent
      (hP.append (h.name _ function) (lastFrom_called _ function ▸ h.finish))
    simpa only [Convention.statement, Identifier.called, List.append_assoc] using hcall

theorem statements (body : List Statement) :
    P (some '\n') (body.flatMap old.statement) (body.flatMap new.statement) := by
  induction body with
  | nil => exact hP.nil _
  | cons s body ih =>
    rw [List.flatMap_cons, List.flatMap_cons]
    refine hP.append (h.statement hP s) ?_
    rw [lastFrom_statement]
    exact ih

theorem handler (f : Handler) : P (some '\n') (old.handler f) (new.handler f) := by
  have hbody := hP.append (h.statements hP f.body) (lastFrom_statements old f.body ▸ h.closing)
  have hend := hP.append (h.params f.usesAuth) (lastFrom_params _ old f.usesAuth ▸ hbody)
  have hwhole := hP.append h.header
    (hP.append (h.name _ f.name) (lastFrom_called _ f.name ▸ hend))
  simpa only [Convention.handler, Convention.params, Identifier.called,
    List.append_assoc] using hwhole

theorem handlers (fs : List Handler) :
    P (some '\n') (fs.flatMap old.handler) (fs.flatMap new.handler) := by
  induction fs with
  | nil => exact hP.nil _
  | cons f fs ih =>
    rw [List.flatMap_cons, List.flatMap_cons]
    refine hP.append (h.handler hP f) ?_
    rw [lastFrom_handler]
    exact ih

theorem file (fs : List Handler) : P none (old.file fs) (new.file fs) := by
  have hrest := h.line (fs.any Handler.usesAuth) ▸ h.handlers hP fs
  exact hP.append (h.opening (fs.any Handler.usesAuth)) hrest

end Pieces

/-- A text that ends within no identifier: its first character that is not part of one is no opening
parenthesis. -/
def breaksName (fixed : Text) : Bool :=
  match fixed.dropWhile isNameChar with
  | [] => false
  | c :: _ => c != '('

theorem not_prefix_name {fixed : Text} (h : breaksName fixed = true) {chars : Text}
    (hc : ∀ c ∈ chars, isNameChar c = true) (tail : Text) : ¬ fixed <+: chars ++ '(' :: tail := by
  induction fixed generalizing chars with
  | nil => simp [breaksName] at h
  | cons d fixed ih =>
    by_cases hd : isNameChar d = true
    · have hrest : breaksName fixed = true := by simpa [breaksName, hd] using h
      cases chars with
      | nil =>
        rintro ⟨rest, heq⟩
        obtain ⟨rfl, _⟩ := List.cons.inj heq
        simp [isNameChar] at hd
      | cons c chars =>
        intro hp
        rw [List.cons_append, List.cons_prefix_cons] at hp
        exact ih hrest (fun c hc' => hc c (List.mem_cons_of_mem _ hc')) hp.2
    · have hne : d ≠ '(' := by simpa [breaksName, hd] using h
      cases chars with
      | nil =>
        rintro ⟨rest, heq⟩
        exact hne (List.cons.inj heq).1
      | cons c chars =>
        rintro ⟨rest, heq⟩
        obtain ⟨rfl, _⟩ := List.cons.inj heq
        exact hd (hc d List.mem_cons_self)

theorem called_eq (f : Identifier) : f.called = f.chars ++ ['('] := rfl

theorem suffix_called {f : Identifier} {left right : Text} (heq : f.called = left ++ right)
    (hne : right ≠ []) : ∃ chars, right = chars ++ ['('] ∧ ∀ c ∈ chars, isNameChar c = true := by
  rw [called_eq] at heq
  rcases List.append_eq_append_iff.mp heq with ⟨gap, rfl, hgap⟩ | ⟨gap, hgap, rfl⟩
  · rcases List.append_eq_singleton_iff.mp hgap.symm with ⟨rfl, rfl⟩ | ⟨rfl, rfl⟩
    · exact ⟨[], rfl, by simp⟩
    · exact absurd rfl hne
  · refine ⟨gap, rfl, fun c hc => f.lower c ?_⟩
    rw [hgap]
    exact List.mem_append_right _ hc

/-- A pattern that begins with a text that breaks names does not match within a call. -/
theorem quiet_called {pattern : Pattern} {fixed : Text} (hb : pattern.Begins fixed)
    (h : breaksName fixed = true) (prev : Option Char) (f : Identifier) :
    pattern.Quiet prev f.called := by
  intro left right tail heq hne
  obtain ⟨chars, rfl, hchars⟩ := suffix_called heq hne
  refine hb.width?_eq_none ?_
  rw [List.append_assoc]
  exact not_prefix_name h hchars tail

section

variable {pattern : Pattern} {act : Text → Text} {old new : Convention}

theorem piecewise_passes : Piecewise (pattern.Passes act) where
  nil := fun _ _ => rfl
  append := Pattern.Passes.append

theorem piecewise_quiet : Piecewise fun prev text out => out = text ∧ pattern.Quiet prev text where
  nil := fun _ => ⟨rfl, .nil⟩
  append := by
    rintro prev first second _ _ ⟨rfl, h₁⟩ ⟨rfl, h₂⟩
    exact ⟨rfl, h₁.append h₂⟩

def quietFixed (pattern : Pattern) : Bool :=
  pattern.quietIn (some '\n') header && pattern.quietIn (some '\n') indent
    && pattern.quietIn (some '(') finish && pattern.quietIn (some '\n') bodyEnd

namespace Convention

def lined (convention : Convention) : Bool :=
  [false, true].all fun b => Text.lastFrom none (convention.opening b) = some '\n'

def turns (old new : Convention) (pattern : Pattern) (act : Text → Text) : Bool :=
  old.lined && quietFixed pattern &&
    [false, true].all fun b =>
      pattern.rewriteIn? act 0 none (old.opening b) = some (new.opening b)
        && pattern.rewriteIn? act 0 (some '(') (old.params b) = some (new.params b)
        && pattern.rewriteIn? act 0 (some '(') (old.argument b) = some (new.argument b)

def quiet (convention : Convention) (pattern : Pattern) : Bool :=
  convention.lined && quietFixed pattern && pattern.quietIn (some ' ') convention.auth &&
    [false, true].all fun b =>
      pattern.quietIn none (convention.opening b)
        && pattern.quietIn (some '(') (convention.params b)
        && pattern.quietIn (some '(') (convention.argument b)

end Convention

theorem line_of_lined (h : old.lined = true) (used : Bool) :
    Text.lastFrom none (old.opening used) = some '\n' := by
  have hall := List.all_eq_true.mp h used (by cases used <;> simp)
  simpa using hall

theorem pieces_of_turns (h : old.turns new pattern act = true)
    (hname : ∀ prev (f : Identifier), pattern.Quiet prev f.called)
    (hauth : ∀ f : Identifier,
      pattern.Passes act (some ' ') (old.auth ++ f.called) (new.auth ++ f.called)) :
    Pieces (pattern.Passes act) old new := by
  simp only [Convention.turns, quietFixed, Bool.and_eq_true] at h
  obtain ⟨⟨hline, ⟨⟨hheader, hindent⟩, hfinish⟩, hend⟩, hall⟩ := h
  have hpieces (b : Bool) := List.all_eq_true.mp hall b (by cases b <;> simp)
  simp only [Bool.and_eq_true, decide_eq_true_eq] at hpieces
  exact {
    opening := fun b => Pattern.passes_of_rewriteIn? (hpieces b).1.1
    line := line_of_lined hline
    header := (Pattern.quiet_of_quietIn hheader).passes
    name := fun prev f => (hname prev f).passes
    params := fun b => Pattern.passes_of_rewriteIn? (hpieces b).1.2
    indent := (Pattern.quiet_of_quietIn hindent).passes
    argument := fun b => Pattern.passes_of_rewriteIn? (hpieces b).2
    auth := hauth
    finish := (Pattern.quiet_of_quietIn hfinish).passes
    closing := (Pattern.quiet_of_quietIn hend).passes }

theorem rewrite_file (h : old.turns new pattern act = true)
    (hname : ∀ prev (f : Identifier), pattern.Quiet prev f.called)
    (hauth : ∀ f : Identifier,
      pattern.Passes act (some ' ') (old.auth ++ f.called) (new.auth ++ f.called))
    (fs : List Handler) : pattern.rewrite act (old.file fs) = new.file fs :=
  ((pieces_of_turns h hname hauth).file piecewise_passes fs).rewrite

theorem passes_auth (h : pattern.rewriteIn? act 0 (some ' ') old.auth = some new.auth)
    (hname : ∀ prev (f : Identifier), pattern.Quiet prev f.called) (f : Identifier) :
    pattern.Passes act (some ' ') (old.auth ++ f.called) (new.auth ++ f.called) :=
  (Pattern.passes_of_rewriteIn? h).append (hname _ f).passes

theorem pieces_of_quiet (h : old.quiet pattern = true)
    (hname : ∀ prev (f : Identifier), pattern.Quiet prev f.called) :
    Pieces (fun prev text out => out = text ∧ pattern.Quiet prev text) old old := by
  simp only [Convention.quiet, quietFixed, Bool.and_eq_true] at h
  obtain ⟨⟨⟨hline, ⟨⟨hheader, hindent⟩, hfinish⟩, hend⟩, hauth⟩, hall⟩ := h
  have hpieces (b : Bool) := List.all_eq_true.mp hall b (by cases b <;> simp)
  simp only [Bool.and_eq_true] at hpieces
  exact {
    opening := fun b => ⟨rfl, Pattern.quiet_of_quietIn (hpieces b).1.1⟩
    line := line_of_lined hline
    header := ⟨rfl, Pattern.quiet_of_quietIn hheader⟩
    name := fun prev f => ⟨rfl, hname prev f⟩
    params := fun b => ⟨rfl, Pattern.quiet_of_quietIn (hpieces b).1.2⟩
    indent := ⟨rfl, Pattern.quiet_of_quietIn hindent⟩
    argument := fun b => ⟨rfl, Pattern.quiet_of_quietIn (hpieces b).2⟩
    auth := fun f => ⟨rfl, (Pattern.quiet_of_quietIn hauth).append (hname _ f)⟩
    finish := ⟨rfl, Pattern.quiet_of_quietIn hfinish⟩
    closing := ⟨rfl, Pattern.quiet_of_quietIn hend⟩ }

theorem not_occurs_file (hc : pattern.consumes = true) (h : old.quiet pattern = true)
    (hname : ∀ prev (f : Identifier), pattern.Quiet prev f.called) (fs : List Handler) :
    pattern.occurs none (old.file fs) = false := by
  have hquiet := ((pieces_of_quiet h hname).file piecewise_quiet fs).2
  have hend := hquiet.occurs_append []
  rw [List.append_nil] at hend
  rw [hend]
  simp [Pattern.occurs, Pattern.width?, Pattern.ends_nil_of_consumes hc]

end

section

variable {old new : Convention} {fixed : Text}

theorem not_within_file (hc : (Pattern.exactly fixed).consumes = true)
    (hb : breaksName fixed = true) (h : old.quiet (.exactly fixed) = true) (fs : List Handler) :
    fixed.within (old.file fs) = false := by
  rw [← Pattern.occurs_exactly fixed _ none]
  exact not_occurs_file hc h (quiet_called Pattern.begins_lit hb) fs

namespace Form

variable (form : Form) {rule : Rule} {valid : (Regex.read? form.source).isSome = true}

theorem not_occurs_file (hbegins : form.pattern.Begins fixed) (hb : breaksName fixed = true)
    (h : old.quiet form.pattern = true) (fs : List Handler) :
    form.pattern.occurs none (old.file fs) = false :=
  Catalog.not_occurs_file form.consumes h (quiet_called hbegins hb) fs

variable (hm : rule.matcher = .regex (.ofText form.source valid))

include hm

theorem apply_file_quiet (hbegins : form.pattern.Begins fixed) (hb : breaksName fixed = true)
    (h : old.quiet form.pattern = true) (fs : List Handler) :
    rule.apply (old.file fs) = old.file fs :=
  form.apply_of_not_occurs hm (form.not_occurs_file hbegins hb h fs)

/-- A rule that turns the pieces of one convention into those of another does so with files. -/
theorem apply_file {act : Replacement} (ha : rule.action = .replace act .all)
    (hn : act.isPlain = true) (hbegins : form.pattern.Begins fixed)
    (hb : breaksName fixed = true) (h : old.turns new form.pattern act.acts = true)
    (hauth : form.pattern.rewriteIn? act.acts 0 (some ' ') old.auth = some new.auth)
    {fs : List Handler} (hg : rule.guard.holds (old.file fs) = true) :
    rule.apply (old.file fs) = new.file fs := by
  have hname := quiet_called hbegins hb
  rw [form.apply_rewrite hm ha hn hg]
  exact rewrite_file h hname (passes_auth hauth hname) fs

/-- A rule puts text behind the imports of a file if its form first matches on their last line. -/
theorem apply_file_insert {before line inserted : Text}
    (ha : rule.action = .insert inserted .after) (himports : old.imports = before ++ line)
    (hq : form.pattern.quietIn none before = true)
    (hw : form.pattern.widthIn? (Text.lastFrom none before) line = some (some line.length))
    {fs : List Handler} (hg : rule.guard.holds (old.file fs) = true) :
    rule.apply (old.file fs) = old.imports ++ inserted ++ old.rest fs := by
  have hline : form.pattern.First (Text.lastFrom none before) (line ++ old.rest fs) [] line
      (old.rest fs) :=
    ⟨rfl, Pattern.width?_of_widthIn? hw _, by simp⟩
  have hfirst := (Pattern.quiet_of_quietIn hq).first_append hline
  have hsplit : old.file fs = before ++ (line ++ old.rest fs) := by
    rw [Convention.file_eq, himports, List.append_assoc]
  rw [← hsplit] at hfirst
  rw [form.apply_insertAfter hm ha hg hfirst, himports, List.append_nil]

end Form

end

end Recast.Catalog
