import Mathlib.Data.List.Perm.Basic
import PacketBrowser.Foundation.Json
import PacketBrowser.Protocol.Message

/-!
# Data in a script

The connect page holds the ports as JSON in the midst of a script. What could end the
script or a line of it is replaced by escapes, one character after the other; the order
makes no difference, and neither does any of it to the value.
-/

namespace PacketBrowser.Client

open Protocol Foundation

section Ports

/-- A port of the modem. -/
structure PortInfo where
  portNum : UInt8
  description : Text
  deriving DecidableEq

/-- A port as it is serialized. -/
def PortInfo.value (port : PortInfo) : Json.Value :=
  .object [("port_num".toList, .number (.ofNat port.portNum.toNat)),
    ("description".toList, .string port.description)]

/-- All ports, as the page is given them. -/
def portsJson (availablePorts : List PortInfo) : Text :=
  Json.print (.array (availablePorts.map PortInfo.value))

end Ports

section Replacements

/-- The text with a text in place of each occurrence of a character. -/
def replaceChar (c : Char) (text s : Text) : Text := s.flatMap fun d => if d = c then text else [d]

/-- A literal with the five characters escaped that end a script or a line of it. -/
def jsonForScript (s : Text) : Text :=
  replaceChar '\u2029' "\\u2029".toList <| replaceChar '\u2028' "\\u2028".toList <|
    replaceChar '&' "\\u0026".toList <| replaceChar '>' "\\u003e".toList <|
      replaceChar '<' "\\u003c".toList s

/-- The replacements, in the order in which they are made. -/
def replacements : List (Char × Text) :=
  [('<', "\\u003c".toList), ('>', "\\u003e".toList), ('&', "\\u0026".toList),
    ('\u2028', "\\u2028".toList), ('\u2029', "\\u2029".toList)]

/-- One replacement. -/
def replaceWith (s : Text) (replacement : Char × Text) : Text :=
  replaceChar replacement.1 replacement.2 s

/-- The character is one of those that are replaced. -/
def breaking (c : Char) : Bool := (replacements.map Prod.fst).contains c

/-- Replacing goes character by character. -/
theorem replaceChar_cons (c d : Char) (text s : Text) :
    replaceChar c text (d :: s) = (if d = c then text else [d]) ++ replaceChar c text s :=
  List.flatMap_cons

/-- Replacing goes through one text and then the other. -/
theorem replaceChar_append (c : Char) (text left right : Text) :
    replaceChar c text (left ++ right) = replaceChar c text left ++ replaceChar c text right :=
  List.flatMap_append

/-- Nothing is replaced where the character is not. -/
theorem replaceChar_absent {c : Char} {s : Text} (absent : c ∉ s) (text : Text) :
    replaceChar c text s = s := by
  induction s with
  | nil => rfl
  | cons d s inductionHypothesis =>
    have other : d ≠ c := fun same => absent (same ▸ List.mem_cons_self)
    rw [replaceChar_cons, if_neg other,
      inductionHypothesis fun member => absent (List.mem_cons_of_mem d member)]
    rfl

/-- Two replacements may be made in either order, unless one makes what the other replaces. -/
theorem replaceChar_comm {c d : Char} {first second : Text} (apart : c ≠ d) (outside : c ∉ second)
    (without : d ∉ first) (s : Text) :
    replaceChar c first (replaceChar d second s) =
      replaceChar d second (replaceChar c first s) := by
  induction s with
  | nil => rfl
  | cons e s inductionHypothesis =>
    rw [replaceChar_cons, replaceChar_cons, replaceChar_append, replaceChar_append,
      inductionHypothesis]
    congr 1
    by_cases here : e = c
    · rw [if_neg (here ▸ apart), if_pos here, replaceChar_absent without, replaceChar_cons,
        if_pos here]
      exact List.append_nil first
    · rw [if_neg here]
      by_cases there : e = d
      · rw [if_pos there, replaceChar_absent outside, replaceChar_cons, if_pos there]
        exact (List.append_nil second).symm
      · simp [replaceChar, here, there]

/-- Two of the replacements may be made in either order. -/
theorem replaceWith_comm {first second : Char × Text} (mem : first ∈ replacements)
    (member : second ∈ replacements) (s : Text) :
    replaceWith (replaceWith s first) second = replaceWith (replaceWith s second) first := by
  have apart : ∀ first ∈ replacements, ∀ second ∈ replacements,
      first = second ∨ first.1 ≠ second.1 ∧ first.1 ∉ second.2 ∧ second.1 ∉ first.2 := by
    decide
  rcases apart second member first mem with rfl | ⟨other, outside, without⟩
  · rfl
  · exact replaceChar_comm other outside without s

/-- The characters that break out are those that are replaced. -/
theorem breaking_iff (c : Char) : breaking c = true ↔ ∃ text, (c, text) ∈ replacements := by
  unfold breaking
  rw [List.contains_iff_mem]
  simp

/-- One character is escaped exactly if it breaks out. -/
theorem jsonForScript_single (c : Char) :
    jsonForScript [c] = if breaking c then Json.unicodeEscape c else [c] := by
  by_cases chosen : breaking c = true
  · have each : ∀ replacement ∈ replacements,
        jsonForScript [replacement.1] = Json.unicodeEscape replacement.1 := by
      decide
    obtain ⟨text, member⟩ := (breaking_iff c).mp chosen
    rw [if_pos chosen]
    exact each (c, text) member
  · have other : ∀ replacement ∈ replacements, replacement.1 ∉ [c] := by
      rintro ⟨d, text⟩ member inside
      obtain rfl := List.mem_singleton.mp inside
      exact chosen ((breaking_iff d).mpr ⟨text, member⟩)
    have same : ∀ replacement ∈ replacements, replaceWith [c] replacement = [c] :=
      fun replacement member => replaceChar_absent (other replacement member) _
    have whole : jsonForScript [c] = replacements.foldl replaceWith [c] := rfl
    rw [if_neg chosen, whole]
    exact List.foldlRecOn (motive := (· = [c])) replacements replaceWith rfl
      fun s unchanged replacement member => by rw [unchanged]; exact same replacement member

/-- All replacements together are made character by character. -/
theorem jsonForScript_eq (s : Text) : jsonForScript s = Json.replaceBy breaking s := by
  induction s with
  | nil => rfl
  | cons c s inductionHypothesis =>
    have split : jsonForScript (c :: s) = jsonForScript [c] ++ jsonForScript s := by
      unfold jsonForScript
      simp only [← replaceChar_append]
      rfl
    rw [split, jsonForScript_single, inductionHypothesis]
    rfl

/-- What is replaced stands in strings only. -/
theorem breaking_foreign (c : Char) (chosen : breaking c = true) :
    Json.foreign c = true ∧ c.toNat < 0x10000 := by
  have each : ∀ replacement ∈ replacements,
      Json.foreign replacement.1 = true ∧ replacement.1.toNat < 0x10000 := by
    decide
  obtain ⟨text, member⟩ := (breaking_iff c).mp chosen
  exact each (c, text) member

/-- Nothing that is replaced is left. -/
theorem breaking_jsonForScript {c : Char} {s : Text} (member : c ∈ jsonForScript s) :
    breaking c = false := by
  have escape : ∀ replacement ∈ replacements,
      (Json.unicodeEscape replacement.1).all (fun c => !breaking c) = true := by
    decide
  rw [jsonForScript_eq] at member
  obtain ⟨d, _, inside⟩ := List.mem_flatMap.mp member
  by_cases chosen : breaking d = true
  · obtain ⟨text, listed⟩ := (breaking_iff d).mp chosen
    rw [if_pos chosen] at inside
    simpa using List.all_eq_true.mp (escape (d, text) listed) c inside
  · rw [if_neg chosen, List.mem_singleton] at inside
    rw [inside]
    exact Bool.eq_false_iff.mpr chosen

end Replacements

section Safety

/-- What the replacements do to JSON. -/
structure ScriptSafe : Prop where
  /-- A text of JSON keeps its value. -/
  value : ∀ s value, Json.parse s = some value → Json.parse (jsonForScript s) = some value
  /-- What is printed has the value it was printed from. -/
  printed : ∀ value, Json.parse (jsonForScript (Json.print value)) = some value
  /-- None of the characters that are replaced is left in any text. -/
  clean : ∀ s, ∀ c ∈ ['<', '>', '&', '\u2028', '\u2029'], c ∉ jsonForScript s
  /-- In whatever order the replacements are made, the text becomes the same. -/
  order : ∀ order : List (Char × Text), order.Perm replacements → ∀ s,
    order.foldl replaceWith s = jsonForScript s

/-- JSON may be put into a script.

The replacements are of single characters that occur in strings only, so they change no value,
and their order does not matter. -/
theorem json_script_safe : ScriptSafe where
  value := by
    intro s value read
    rw [jsonForScript_eq]
    exact Json.parse_replaceBy breaking_foreign read
  printed := by
    intro value
    rw [jsonForScript_eq]
    exact Json.parse_replaceBy breaking_foreign (Json.parse_print value)
  clean := by
    intro s c listed member
    exact absurd (List.contains_iff_mem.mpr listed)
      (Bool.eq_false_iff.mp (breaking_jsonForScript member))
  order := by
    intro order same s
    have whole : replacements.foldl replaceWith s = jsonForScript s := rfl
    rw [← whole]
    apply same.foldl_eq'
    intro first mem second member s
    exact replaceWith_comm (same.mem_iff.mp mem) (same.mem_iff.mp member) s

example : Json.lex .between (jsonForScript "[\"\\\\<\"]".toList) =
    some [.beginArray, .string "\\<".toList, .endArray] := by
  decide

/-- The script of the connect page holds the ports themselves. -/
theorem ports_kept (availablePorts : List PortInfo) :
    Json.parse (jsonForScript (portsJson availablePorts)) =
      some (.array (availablePorts.map PortInfo.value)) := by
  rw [jsonForScript_eq]
  exact Json.parse_replaceBy breaking_foreign (Json.parse_print _)

end Safety

end PacketBrowser.Client
