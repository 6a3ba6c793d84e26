import PacketBrowser.Server.Dialogue
import PacketBrowser.Server.Duplicates

/-!
# From the first line to the first request

A session that gets past its handshake has written its two prompts, has read the lines
that admit the operator, and has nothing of what is behind them. If the input begins with
lines that admit the operator, these are the ones, and what is left is what was sent behind
them.
-/

namespace PacketBrowser.Server

open Protocol Foundation Program Setting

section Lines

variable {casing : Text.Casing} {allowlist : List Text}

/-- No admitted lines begin others: the last line is the first one behind the callsign that
is not skipped. -/
theorem Admitted.unique {lines others : List Text} (one : Admitted casing allowlist lines)
    (two : Admitted casing allowlist others) (inside : lines <+: others) : lines = others := by
  cases one with
  | @agreed first last callsign noise accepted skipped agrees answer =>
    cases two with
    | @agreed first' last' callsign' noise' accepted' skipped' agrees' answer' =>
      obtain ⟨rfl, behind⟩ := List.cons_prefix_cons.mp inside
      obtain rfl : callsign = callsign' := Option.some.inj (accepted.symm.trans accepted')
      have within : last ∈ noise' ++ [last'] :=
        behind.subset (List.mem_append_right _ (List.mem_singleton_self _))
      rcases List.mem_append.mp within with early | final
      · exact absurd (skipped' last early) answer
      · have longer : noise'.length ≤ noise.length := by
          by_contra shorter
          rw [Nat.not_le] at shorter
          have front : noise ++ [last] <+: noise' :=
            List.prefix_of_prefix_length_le behind (List.prefix_append noise' [last'])
              (by simp only [List.length_append, List.length_singleton]; omega)
          have early : last ∈ noise' :=
            front.subset (List.mem_append_right _ (List.mem_singleton_self _))
          exact absurd (skipped' last early) answer
        have same : noise ++ [last] = noise' ++ [last'] := by
          apply behind.eq_of_length_le
          simp only [List.length_append, List.length_singleton]
          omega
        rw [same]

/-- The same lines leave the same rest. -/
theorem Begins.unique {lines : List Text} {whole rest behind : Bytes}
    (one : Begins lines whole rest) (two : Begins lines whole behind) : rest = behind := by
  induction one with
  | none whole =>
    cases two
    rfl
  | line first _ inductionHypothesis =>
    cases two with
    | line first' later =>
      obtain ⟨_, rfl⟩ := first.unique first'
      exact inductionHypothesis later

end Lines

section Handshake

variable {casing : Text.Casing} {config : Config} {whole : Bytes} {lines : List Text}
variable {pieces : List Bytes}

/-- Every run of a handshake. -/
def greeting : Setting World Unit Answer where
  exec := exec
  meets := fun _ _ => True
  inv := fun _ => True

/-- What a part of the handshake that may fail has established, if it gave a value. -/
abbrev OnSuccess {α : Type} (post : α → Moment → Prop) :
    Except IoError (Option α) → Moment → Prop :=
  outcome (fun found now => ∀ value, found = some value → post value now) fun _ _ => True

end Handshake

end PacketBrowser.Server
