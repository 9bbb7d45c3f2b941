/-
Environment variables in texts.

A token is @env(' followed by a name without single quotes and by '). A text is split at its tokens from left to
right; what stands between them, broken tokens included, is kept character by character. A value is put in place of a
token as it would be written inside a JSON string, and is not looked at again.
-/
import EntityGateway.Json.Printer
import EntityGateway.Text.Trim
import EntityGateway.Config.Error

namespace EntityGateway

/-- what is done about a variable that is not set -/
inductive MissingVariable where
  | refuse
  | keep
deriving DecidableEq, Repr

/-- whether variables are replaced, and what is done about missing ones -/
structure Replacement where
  replace : Bool := true
  missing : MissingVariable := .refuse

def Replacement.disabled : Replacement := ⟨false, .keep⟩

/-- the values of the variables that are set -/
abbrev Environment := String → Option String

namespace Environment

/-- how a token begins -/
def opening : List Char := ['@', 'e', 'n', 'v', '(', '\'']

/-- how a token ends -/
def closing : List Char := ['\'', ')']

/-- a part of a text -/
inductive Piece where
  | plain (c : Char)
  | token (name : List Char)
deriving DecidableEq, Repr

/-- the name of the token at the front of a text, and what follows it -/
def token? (cs : List Char) : Option (List Char × List Char) :=
  match Text.stripFront? opening cs with
  | none => none
  | some rest =>
    match Text.stripFront? closing (rest.dropWhile (· ≠ '\'')) with
    | none => none
    | some after => some (rest.takeWhile (· ≠ '\''), after)

theorem length_stripFront? {p cs rest : List Char} (h : Text.stripFront? p cs = some rest) :
    rest.length + p.length = cs.length := by
  induction p generalizing cs with
  | nil => simp_all [Text.stripFront?]
  | cons x p ih =>
    cases cs with
    | nil => simp [Text.stripFront?] at h
    | cons c cs =>
      simp only [Text.stripFront?] at h
      split at h
      · have := ih h
        simp only [List.length_cons]
        omega
      · cases h

theorem length_token? {cs name rest : List Char} (h : token? cs = some (name, rest)) : rest.length < cs.length := by
  unfold token? at h
  split at h
  · cases h
  · next inner hopen =>
    split at h
    · cases h
    · next after hclose =>
      simp only [Option.some.injEq, Prod.mk.injEq] at h
      have h1 := length_stripFront? hopen
      have h2 := length_stripFront? hclose
      have h3 : (inner.dropWhile (· ≠ '\'')).length ≤ inner.length := (List.dropWhile_sublist _).length_le
      simp only [opening, closing, List.length_cons, List.length_nil] at h1 h2
      rw [← h.2]
      omega

def split (cs : List Char) : List Piece :=
  match _h : token? cs with
  | some (name, rest) => .token name :: split rest
  | none =>
    match cs with
    | [] => []
    | c :: rest => .plain c :: split rest
termination_by cs.length
decreasing_by
  · exact length_token? (by assumption)
  · simp

def Piece.source : Piece → List Char
  | .plain c => [c]
  | .token name => opening ++ name ++ closing

/-- the value of a token, if it is set -/
def valueOf (env : Environment) (name : List Char) : Option (List Char) :=
  (env (String.ofList name)).map fun v => Json.escape v.toList

/-- the characters that come in place of a piece -/
def Piece.expand (env : Environment) : Piece → List Char
  | .plain c => [c]
  | .token name => (valueOf env name).getD (opening ++ name ++ closing)

/-- the name of a piece that is a token without a value -/
def Piece.unset? (env : Environment) : Piece → Option String
  | .plain _ => none
  | .token name => if (env (String.ofList name)).isSome then none else some (String.ofList name)

/-- the text with its tokens replaced -/
def substitute (env : Environment) (missing : MissingVariable) (s : String) : Except ConfigError String :=
  let pieces := split s.toList
  let text := String.ofList (pieces.flatMap (Piece.expand env))
  match missing with
  | .keep => .ok text
  | .refuse =>
    match pieces.findSome? (Piece.unset? env) with
    | some name => .error (.missingEnvVar name)
    | none => .ok text

end Environment

end EntityGateway
