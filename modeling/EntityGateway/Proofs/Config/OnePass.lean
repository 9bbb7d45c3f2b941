/-
One pass from left to right.

Tokens are found from left to right: the first one that begins anywhere, then the first one that begins anywhere after
it, and so on. That determines them, so a text can be split into its tokens and the characters between them in one way
only. What replacement makes of a text follows from that split piece by piece. Values are not split: no token is found
in what came in the place of another, so only the variables that the text itself names can matter.

- `isSplit_iff`: the split of a text, which is the only one;
- `becomes_iff`: what comes in the place of a piece;
- `substitution_is_one_pass`: both results of replacement, told from the split.
-/
import EntityGateway.Proofs.Config.Substitution

namespace EntityGateway.Environment

/-! ## Splits -/

/-- a token begins a text: its opening, a name without a single quote, and its closing -/
def StartsToken (cs : List Char) : Prop := ∃ name rest, cs = opening ++ (name ++ (closing ++ rest)) ∧ '\'' ∉ name

/-- the leftmost tokens of a text that do not overlap, and every character between them -/
structure IsSplit (cs : List Char) (pieces : List Piece) : Prop where
  /-- the pieces one after another are the text -/
  whole : pieces.flatMap Piece.source = cs
  /-- what is taken as a token is one -/
  names : ∀ name, .token name ∈ pieces → '\'' ∉ name
  /-- no token begins at a character that is left between tokens -/
  leftmost : ∀ before c after, pieces = before ++ .plain c :: after → ¬ StartsToken (c :: after.flatMap Piece.source)

theorem startsToken_iff {cs : List Char} : StartsToken cs ↔ ∃ token, token? cs = some token := by
  constructor
  · rintro ⟨name, rest, htoken⟩
    exact ⟨(name, rest), token?_eq_some.2 htoken⟩
  · rintro ⟨⟨name, rest⟩, htoken⟩
    exact ⟨name, rest, token?_eq_some.1 htoken⟩

theorem not_startsToken_iff {cs : List Char} : ¬ StartsToken cs ↔ token? cs = none := by
  rw [startsToken_iff, ← Option.isSome_iff_exists, Option.not_isSome_iff_eq_none]

theorem flatMap_source_split (cs : List Char) : (split cs).flatMap Piece.source = cs := by
  induction cs using split.induct with
  | case1 cs name after htoken ih =>
    obtain ⟨rfl, hname⟩ := token?_eq_some.1 htoken
    rw [split_token hname, List.flatMap_cons, ih]
    simp [Piece.source]
  | case2 _ => simp
  | case3 c cs hnone ih =>
    rw [split_plain hnone, List.flatMap_cons, ih]
    rfl

theorem isSplit_split (cs : List Char) : IsSplit cs (split cs) := by
  refine ⟨flatMap_source_split cs, ?_, ?_⟩
  · intro name hmem
    induction cs using split.induct with
    | case1 cs first after htoken ih =>
      obtain ⟨rfl, hfirst⟩ := token?_eq_some.1 htoken
      rw [split_token hfirst] at hmem
      cases hmem with
      | head => exact hfirst
      | tail _ hmem => exact ih hmem
    | case2 _ => simp at hmem
    | case3 c cs hnone ih =>
      rw [split_plain hnone] at hmem
      cases hmem with
      | tail _ hmem => exact ih hmem
  · intro before c after heq
    induction cs using split.induct generalizing before with
    | case1 cs first rest htoken ih =>
      obtain ⟨rfl, hfirst⟩ := token?_eq_some.1 htoken
      rw [split_token hfirst] at heq
      cases before with
      | nil => cases heq
      | cons p before => exact ih before (List.cons.inj heq).2
    | case2 _ => simp at heq
    | case3 d cs hnone ih =>
      rw [split_plain hnone] at heq
      cases before with
      | nil =>
        obtain ⟨hd, rfl⟩ := List.cons.inj heq
        cases hd
        rw [flatMap_source_split]
        exact not_startsToken_iff.2 hnone
      | cons p before => exact ih before (List.cons.inj heq).2

theorem IsSplit.tail {cs : List Char} {p : Piece} {pieces : List Piece} (h : IsSplit cs (p :: pieces)) :
    IsSplit (pieces.flatMap Piece.source) pieces where
  whole := rfl
  names name hmem := h.names name (List.mem_cons_of_mem _ hmem)
  leftmost before c after heq := h.leftmost (p :: before) c after (by rw [heq, List.cons_append])

/-- **A text has one split** -/
theorem isSplit_iff {cs : List Char} {pieces : List Piece} : IsSplit cs pieces ↔ pieces = split cs := by
  constructor
  · intro h
    induction pieces generalizing cs with
    | nil =>
      have hcs : cs = [] := h.whole.symm
      rw [hcs, split_nil]
    | cons p pieces ih =>
      have hrest := ih h.tail
      rw [← h.whole, List.flatMap_cons]
      cases p with
      | token name =>
        have hsource : (Piece.token name).source ++ pieces.flatMap Piece.source =
            opening ++ (name ++ (closing ++ pieces.flatMap Piece.source)) := by simp [Piece.source]
        rw [hsource, split_token (h.names name List.mem_cons_self), ← hrest]
      | plain c =>
        have hnone := not_startsToken_iff.1 (h.leftmost [] c pieces rfl)
        rw [Piece.source, List.singleton_append, split_plain hnone, ← hrest]
  · rintro rfl
    exact isSplit_split cs

/-! ## Replacement -/

/-- what comes in the place of a piece: a character stays, and so does a token that is not set; in the place of one that
is set comes its value as it is written in a JSON text, without the quotes around it -/
inductive Piece.Becomes (env : Environment) : Piece → List Char → Prop
  | plain (c : Char) : Becomes env (.plain c) [c]
  | unset (h : env (String.ofList name) = none) : Becomes env (.token name) (opening ++ (name ++ closing))
  | value (h : env (String.ofList name) = some v) (hpart : Json.write (.string v) = '"' :: (part ++ ['"'])) :
    Becomes env (.token name) part

/-- a text is made of what comes in the place of each piece -/
def IsReplaced (env : Environment) (pieces : List Piece) (t : String) : Prop :=
  ∃ parts, List.Forall₂ (Piece.Becomes env) pieces parts ∧ t = String.ofList parts.flatten

section Replacement

variable {env : Environment} {pieces : List Piece} {p : Piece} {part : List Char}

theorem becomes_iff : p.Becomes env part ↔ part = p.expand env := by
  constructor
  · intro h
    cases h with
    | plain c => rfl
    | unset h => simp [Piece.expand, valueOf, h]
    | @value name v part h hpart =>
      have hescape : '"' :: (Json.escape v.toList ++ ['"']) = '"' :: (part ++ ['"']) := hpart
      simp only [List.cons.injEq, true_and, List.append_cancel_right_eq] at hescape
      simp [Piece.expand, valueOf, h, hescape]
  · rintro rfl
    cases p with
    | plain c => exact .plain c
    | token name =>
      cases h : env (String.ofList name) with
      | none =>
        have hexpand : (Piece.token name).expand env = opening ++ (name ++ closing) := by
          simp [Piece.expand, valueOf, h]
        rw [hexpand]
        exact .unset h
      | some v =>
        have hexpand : (Piece.token name).expand env = Json.escape v.toList := by simp [Piece.expand, valueOf, h]
        rw [hexpand]
        exact .value h rfl

theorem forall₂_becomes_iff {parts : List (List Char)} :
    List.Forall₂ (Piece.Becomes env) pieces parts ↔ parts = pieces.map (Piece.expand env) := by
  have hbecomes : Piece.Becomes env = fun p part => p.expand env = part := by
    funext p part
    exact propext (becomes_iff.trans eq_comm)
  rw [hbecomes, ← List.forall₂_map_left_iff, List.forall₂_eq_eq_eq, eq_comm]

/-- **The pieces decide about the text** -/
theorem isReplaced_iff {t : String} :
    IsReplaced env pieces t ↔ t = String.ofList (pieces.flatMap (Piece.expand env)) := by
  unfold IsReplaced
  simp only [forall₂_becomes_iff, exists_eq_left, List.flatMap_def]

/-- what comes in the place of the pieces depends on the variables that they name -/
theorem expand_congr {env' : Environment}
    (h : ∀ name, .token name ∈ pieces → env' (String.ofList name) = env (String.ofList name)) (hp : p ∈ pieces) :
    p.expand env' = p.expand env ∧ p.unset? env' = p.unset? env := by
  cases p with
  | plain c => exact ⟨rfl, rfl⟩
  | token name => simp only [Piece.expand, Piece.unset?, valueOf, h name hp, and_self]

end Replacement

/-- **Replacement is one pass from left to right.** A text has one split into its leftmost tokens and what is between
them. If missing variables are kept, the text comes out with each token that is set replaced and everything else as it
was; if they are refused, it does so if all tokens are set, and otherwise the error names the first that is not. No
variable matters but those that tokens of the text itself name -/
theorem substitution_is_one_pass (s : String) :
    ∃ pieces, IsSplit s.toList pieces ∧ (∀ other, IsSplit s.toList other → other = pieces) ∧
      ∀ env : Environment,
        (∃ t, IsReplaced env pieces t ∧ (∀ t', IsReplaced env pieces t' → t' = t) ∧ substitute env .keep s = .ok t ∧
          ((∀ name, .token name ∈ pieces → ∃ v, env (String.ofList name) = some v) →
            substitute env .refuse s = .ok t)) ∧
        (∀ before name after, pieces = before ++ .token name :: after →
          (∀ first, .token first ∈ before → ∃ v, env (String.ofList first) = some v) →
          env (String.ofList name) = none → substitute env .refuse s = .error (.missingEnvVar (String.ofList name))) ∧
        ∀ env' : Environment, (∀ name, .token name ∈ pieces → env' (String.ofList name) = env (String.ofList name)) →
          ∀ missing, substitute env' missing s = substitute env missing s := by
  refine ⟨split s.toList, isSplit_split _, fun other => isSplit_iff.1, fun env => ⟨?_, ?_, ?_⟩⟩
  · refine ⟨_, isReplaced_iff.2 rfl, fun t' => isReplaced_iff.1, rfl, fun hset => ?_⟩
    have hnone : (split s.toList).findSome? (Piece.unset? env) = none := by
      refine List.findSome?_eq_none_iff.2 fun p hp => unset?_eq_none.2 ?_
      rintro name rfl
      exact hset name hp
    simp only [substitute, hnone]
  · intro before name after heq hbefore hunset
    have hfirst : (split s.toList).findSome? (Piece.unset? env) = some (String.ofList name) := by
      refine List.findSome?_eq_some_iff.2 ⟨before, .token name, after, heq, ?_, fun p hp => unset?_eq_none.2 ?_⟩
      · exact unset?_eq_some.2 ⟨name, rfl, hunset, rfl⟩
      · rintro first rfl
        exact hbefore first hp
    simp only [substitute, hfirst]
  · intro env' hagree missing
    have hexpand : (split s.toList).flatMap (Piece.expand env') = (split s.toList).flatMap (Piece.expand env) :=
      List.flatMap_congr fun p hp => (expand_congr hagree hp).1
    have hunset : (split s.toList).findSome? (Piece.unset? env') = (split s.toList).findSome? (Piece.unset? env) := by
      rw [← List.head?_filterMap, ← List.head?_filterMap]
      exact congrArg List.head? (List.filterMap_congr fun p hp => (expand_congr hagree hp).2)
    simp only [substitute, hexpand, hunset]

/-- an opening that nothing closes, in front of two tokens without a gap and another opening; the first value has a
token in it, the second a quote -/
theorem tokens_in_values_are_kept :
    let s := "@env('@env('A')@env('B')@env('C"
    let env : Environment := fun name => if name = "A" then some "@env('D')" else if name = "B" then some "\"" else none
    IsSplit s.toList (opening.map .plain ++ [.token ['A'], .token ['B']] ++ (opening ++ ['C']).map .plain) ∧
      substitute env .refuse s = .ok "@env('@env('D')\\\"@env('C" ∧
      substitute (fun _ => none) .refuse s = .error (.missingEnvVar "A") := by
  intro s env
  have hsplit : split s.toList =
      opening.map .plain ++ [.token ['A'], .token ['B']] ++ (opening ++ ['C']).map .plain := by
    decide +kernel
  obtain ⟨pieces, hpieces, hunique, hresults⟩ := substitution_is_one_pass s
  obtain rfl := (hunique _ (isSplit_iff.2 hsplit.symm)).symm
  refine ⟨hpieces, ?_, ?_⟩
  · obtain ⟨⟨t, -, hreplaced, hkeep, hrefuse⟩, -, -⟩ := hresults env
    have ht : "@env('@env('D')\\\"@env('C" = t := hreplaced _ (isReplaced_iff.2 (by decide +kernel))
    rw [ht]
    refine hrefuse fun name hname => ?_
    have hnames : name = ['A'] ∨ name = ['B'] := by simpa [opening] using hname
    rcases hnames with rfl | rfl
    · exact ⟨_, rfl⟩
    · exact ⟨_, rfl⟩
  · obtain ⟨-, hrefuse, -⟩ := hresults fun _ => none
    exact hrefuse (opening.map .plain) ['A'] ([.token ['B']] ++ (opening ++ ['C']).map .plain) rfl
      (by simp [opening]) rfl

end EntityGateway.Environment
