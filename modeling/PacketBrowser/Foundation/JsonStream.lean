import Mathlib.Data.List.ReduceOption
import PacketBrowser.Foundation.Json

/-!
# A stream of JSON values

Values may follow one another without any sign between them. Such a text is read token by
token: where a value is complete, the next one begins. White space between values means
nothing, so that a reader of a stream is not misled by a line that holds two values, or by
an empty line.
-/

namespace Foundation.Json

/-- The values that are complete, and what is expected next. -/
def streamStep : List Value × Stage → Token → Option (List Value × Stage)
  | (read, stage), token => (stage.step token).map fun stage =>
    match stage with
    | .done value => (read ++ [value], .value [])
    | other => (read, other)

/-- A stream may end only between two values. -/
def streamEnd : List Value × Stage → Option (List Value)
  | (read, .value []) => some read
  | _ => none

/-- The values of a text. -/
def parseAll (text : List Char) : Option (List Value) :=
  (lex .between text).bind fun tokens =>
    (tokens.foldlM streamStep ([], .value [])).bind streamEnd

/-- Nothing follows a complete value. -/
theorem done_step (value : Value) (token : Token) : Stage.step (.done value) token = none := rfl

/-- The tokens of a value add it to the stream. The induction is on the tokens; the value is
complete with the last one and not before, since nothing may follow it. -/
theorem stream_tokens {stage : Stage} {value : Value} (read : List Value) (rest : List Token)
    (tokens : List Token) (filled : tokens ≠ [])
    (completes : tokens.foldlM Stage.step stage = some (.done value)) :
    (tokens ++ rest).foldlM streamStep (read, stage) =
      rest.foldlM streamStep (read ++ [value], .value []) := by
  induction tokens generalizing stage with
  | nil => exact absurd rfl filled
  | cons token tokens inductionHypothesis =>
    rw [List.foldlM_cons] at completes
    obtain ⟨next, stepped, later⟩ := Option.bind_eq_some_iff.mp completes
    rw [List.cons_append, List.foldlM_cons]
    cases tokens with
    | nil =>
      obtain rfl := Option.some.inj later
      simp [streamStep, stepped]
    | cons other tokens =>
      have unfinished : streamStep (read, stage) token = some (read, next) := by
        cases next with
        | done value =>
          rw [List.foldlM_cons, done_step] at later
          exact absurd later (by simp)
        | _ => simp [streamStep, stepped]
      rw [unfinished]
      exact inductionHypothesis (List.cons_ne_nil _ _) later

/-- Something that stands in a stream: a value, or a line feed. -/
def pieceText : Option Value → List Char
  | none => ['\n']
  | some value => print value

/-- A value whose end shows by itself. -/
def Closed : Value → Prop
  | .string _ => True
  | .array _ => True
  | .object _ => True
  | _ => False

/-- Every value has a token. -/
theorem tokens_ne_nil (value : Value) : tokens value ≠ [] := by
  obtain ⟨first, rest, same, -⟩ := tokens_head value
  rw [same]
  exact List.cons_ne_nil _ _

/-- A closed value is cut off from whatever follows it. -/
theorem lex_closed {value : Value} (closed : Closed value) (rest : List Char) :
    lex .between (print value ++ rest) = (lex .between rest).map (tokens value ++ ·) := by
  cases value with
  | string text =>
    rw [print, lex_quoted]
    rfl
  | array items =>
    have inner := lex_printItems items (delimited_cons ']' (by decide) rest)
    rw [print, List.cons_append, lex_structural '[' .beginArray (by decide),
      List.append_assoc, List.singleton_append, inner,
      lex_structural ']' .endArray (by decide) rest]
    simp [tokens, Function.comp_def]
  | object members =>
    have inner := lex_printMembers members (delimited_cons '\x7d' (by decide) rest)
    rw [print, List.cons_append, lex_structural '\x7b' .beginObject (by decide),
      List.append_assoc, List.singleton_append, inner,
      lex_structural '\x7d' .endObject (by decide) rest]
    simp [tokens, Function.comp_def]
  | _ => exact closed.elim

/-- The tokens of a stream are those of its values. -/
theorem lex_pieces (pieces : List (Option Value))
    (closed : ∀ value ∈ pieces.reduceOption, Closed value) :
    lex .between (pieces.flatMap pieceText) = some (pieces.reduceOption.flatMap tokens) := by
  induction pieces with
  | nil => rfl
  | cons piece pieces inductionHypothesis =>
    rw [List.flatMap_cons]
    cases piece with
    | none =>
      have blank : Mode.step .between '\n' = some (.between, []) := by decide
      rw [List.reduceOption_cons_of_none] at closed ⊢
      show lex .between ('\n' :: pieces.flatMap pieceText) = _
      rw [lex_next blank]
      exact inductionHypothesis closed
    | some value =>
      rw [List.reduceOption_cons_of_some] at closed ⊢
      rw [pieceText, lex_closed (closed value List.mem_cons_self),
        inductionHypothesis fun other member => closed other (List.mem_cons_of_mem _ member)]
      rfl

/-- A stream reads back as its values, in their order, wherever the line feeds stand. -/
theorem parseAll_pieces (pieces : List (Option Value))
    (closed : ∀ value ∈ pieces.reduceOption, Closed value) :
    parseAll (pieces.flatMap pieceText) = some pieces.reduceOption := by
  have fold (values read : List Value) :
      (values.flatMap tokens).foldlM streamStep (read, .value []) =
        some (read ++ values, .value []) := by
    induction values generalizing read with
    | nil => simp
    | cons value values inductionHypothesis =>
      have completes := run_tokens value [] []
      rw [List.append_nil] at completes
      rw [List.flatMap_cons, stream_tokens read _ _ (tokens_ne_nil value) completes,
        inductionHypothesis, List.append_assoc, List.singleton_append]
  unfold parseAll
  rw [lex_pieces pieces closed, Option.bind_some, fold]
  rfl

end Foundation.Json
