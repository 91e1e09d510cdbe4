import KubeZoo.Api
import KubeZoo.Lib.Json

/-! # The cursor of a fanned-out list -/

namespace KubeZoo

structure FanoutContinue where
  apiVersion : String := ""
  resourceVersion : String := ""
  namespaceIndex : Int := 0
  inner : String := ""
deriving DecidableEq

def fanoutContinueVersion : String := "kubezoo/v1"

/-- The fields of the record; `inner` is left out when it is empty. -/
def FanoutContinue.fields (c : FanoutContinue) : List Json.Field :=
  [.ofString "v" c.apiVersion, .ofString "rv" c.resourceVersion,
    .ofInt "nsi" c.namespaceIndex] ++ if c.inner = "" then [] else [.ofString "inner" c.inner]

def FanoutContinue.set (name : String) (v : Json.Value) (c : FanoutContinue) :
    Option FanoutContinue :=
  match name with
  | "v" => (Json.asString c.apiVersion v).map fun s => { c with apiVersion := s }
  | "rv" => (Json.asString c.resourceVersion v).map fun s => { c with resourceVersion := s }
  | "nsi" => (Json.asInt c.namespaceIndex v).map fun i => { c with namespaceIndex := i }
  | "inner" => (Json.asString c.inner v).map fun s => { c with inner := s }
  | _ => some c

def encodeFanoutContinue (c : FanoutContinue) : String :=
  Json.token { c with apiVersion := fanoutContinueVersion }.fields

def notIssued : GoError :=
  .status (newBadRequest "the continue parameter is not one this server issued")

def decodeFanoutContinue (token : String) : Except GoError FanoutContinue :=
  match (Json.ofToken token).bind (Json.unmarshal FanoutContinue.set {}) with
  | none => .error notIssued
  | some c =>
    if c.apiVersion ≠ fanoutContinueVersion then .error notIssued
    else if c.resourceVersion = "" ∨ c.namespaceIndex < 0 then .error notIssued
    else .ok c

lemma unmarshal_fields {c : FanoutContinue} (h0 : 0 ≤ c.namespaceIndex)
    (h : c.namespaceIndex < 2 ^ 63) :
    Json.unmarshal FanoutContinue.set {} (.object (c.fields.map Json.Field.read)) = some c := by
  have hint : Json.parseInt (Json.formatInt c.namespaceIndex) = some c.namespaceIndex :=
    Json.parseInt_formatInt h0 h
  have hv : Json.foldName "v" = "v" := by decide
  have hrv : Json.foldName "rv" = "rv" := by decide
  have hnsi : Json.foldName "nsi" = "nsi" := by decide
  have hinner : Json.foldName "inner" = "inner" := by decide
  have hset : ∀ i, FanoutContinue.set "nsi" (.number (String.ofList (Json.formatInt i))) =
      fun c => (Json.parseInt (Json.formatInt i)).map fun i => { c with namespaceIndex := i } := by
    intro i
    funext c
    rw [FanoutContinue.set, Json.asInt, String.toList_ofList]
  rw [FanoutContinue.fields, Json.unmarshal]
  by_cases hin : c.inner = ""
  · rw [if_pos hin]
    simp only [Json.Field.ofString, Json.Field.ofInt, Json.Field.read, List.append_nil,
      List.map_cons, List.map_nil, List.foldlM_cons, List.foldlM_nil, hv, hrv, hnsi, hset, hint]
    simp only [FanoutContinue.set, Json.asString, Option.map_some, Option.bind_eq_bind,
      Option.bind_some, Option.pure_def, ← hin]
  · rw [if_neg hin]
    simp only [Json.Field.ofString, Json.Field.ofInt, Json.Field.read, List.cons_append,
      List.nil_append, List.map_cons, List.map_nil, List.foldlM_cons, List.foldlM_nil, hv, hrv,
      hnsi, hinner, hset, hint]
    simp only [FanoutContinue.set, Json.asString, Option.map_some, Option.bind_eq_bind,
      Option.bind_some, Option.pure_def]

theorem decode_encodeFanoutContinue {c : FanoutContinue} (hrv : c.resourceVersion ≠ "")
    (h0 : 0 ≤ c.namespaceIndex) (h : c.namespaceIndex < 2 ^ 63) :
    decodeFanoutContinue (encodeFanoutContinue c) =
      .ok { c with apiVersion := fanoutContinueVersion } := by
  have hne : { c with apiVersion := fanoutContinueVersion }.fields ≠ [] := nofun
  have hread := unmarshal_fields (c := { c with apiVersion := fanoutContinueVersion }) h0 h
  rw [decodeFanoutContinue, encodeFanoutContinue, Json.ofToken_token _ hne, Option.bind_some, hread]
  simp only [ne_eq, not_true_eq_false, if_false]
  rw [if_neg]
  rintro (h | h)
  · exact hrv h
  · omega

lemma encodeFanoutContinue_ne (c : FanoutContinue) : encodeFanoutContinue c ≠ "" :=
  Json.token_ne_empty _

end KubeZoo
