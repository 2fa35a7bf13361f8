import Mathlib.Data.List.Nodup
import TableExchange.Config.ReaderSettings
import TableExchange.Proofs.Config.ValuesAtPaths

/-!
# Null members

A key whose value is null is looked up like a key that is absent, on its own and in front of other
steps. So the settings of a reader do not change if such keys are removed from their document and
from the entries of its list of connections.

* `Json.dropNulls`, `Config.get_dropNulls`: an object without such keys.
* `Json.updateMember`, `Config.get_updateMember_of_ne`: an object with one value changed.
* `ReaderSettings.ofDocument_congr`: what settings depend on.
* `ReaderSettings.ofDocument_withoutNulls`: a document without such keys has the same settings.
-/

namespace TableExchange

open TableExchange.Path

namespace Json

/-- An object without the keys whose values are null; anything else as it is. -/
def dropNulls : Json → Json
  | .object members =>
    .object (members.filter fun m => !((Json.object members).member? m.1).any isNull)
  | doc => doc

/-- An object with the value of a key changed; anything else as it is. -/
def updateMember (key : String) (f : Json → Json) : Json → Json
  | .object members => .object (members.map fun m => if m.1 = key then (m.1, f m.2) else m)
  | doc => doc

/-- A list whose elements are without the keys whose values are null. -/
def dropItemNulls : Json → Json
  | .array items => .array (items.map dropNulls)
  | doc => doc

/-- Where each key stands once, just the members with null are removed. -/
theorem dropNulls_object {members : List (String × Json)} (h : (members.map (·.1)).Nodup) :
    (Json.object members).dropNulls = .object (members.filter (!·.2.isNull)) := by
  rw [dropNulls, List.filter_congr]
  intro m hm
  obtain ⟨found, hfound⟩ := Option.isSome_iff_exists.1
    (List.find?_isSome (p := fun x => decide (x.1 = m.1)).2 ⟨m, hm, by simp⟩)
  have hkey : found.1 = m.1 := by simpa using List.find?_some hfound
  obtain rfl := List.inj_on_of_nodup_map h (List.mem_of_find?_eq_some hfound) hm hkey
  simp [member?, hfound]

theorem member?_dropNulls (doc : Json) (key : String) :
    doc.dropNulls.member? key = (doc.member? key).filter (!·.isNull) := by
  cases doc with
  | null | bool b | number n | string s | array items => rfl
  | object members =>
    have hfind : (members.filter fun m =>
        !((Json.object members).member? m.1).any isNull).find? (·.1 = key) =
        members.find? fun m =>
          !((Json.object members).member? key).any isNull && decide (m.1 = key) := by
      rw [List.find?_filter]
      congr 1
      funext m
      by_cases h : m.1 = key <;> simp [h]
    rw [dropNulls, member?, hfind]
    cases hvalue : (Json.object members).member? key with
    | none => simpa [member?] using hvalue
    | some v =>
      rw [member?] at hvalue
      cases hnull : v.isNull with
      | true => simp [hnull, Option.filter]
      | false => simp [hnull, hvalue, Option.filter]

theorem member?_updateMember (key : String) (f : Json → Json) (doc : Json) (name : String) :
    (doc.updateMember key f).member? name =
      if name = key then (doc.member? name).map f else doc.member? name := by
  cases doc with
  | null | bool b | number n | string s | array items => simp [updateMember, member?]
  | object members =>
    have hkey : ((fun m : String × Json => decide (m.1 = name)) ∘
        fun m => if m.1 = key then (m.1, f m.2) else m) = fun m => decide (m.1 = name) := by
      funext m
      by_cases h : m.1 = key <;> simp [h]
    rw [updateMember, member?, member?, List.find?_map, hkey]
    cases hfound : members.find? (·.1 = name) with
    | none => simp
    | some m =>
      obtain rfl : m.1 = name := by simpa using List.find?_some hfound
      by_cases h : m.1 = key <;> simp [h]

end Json

/-! ## Lookups -/

theorem Path.follow_single (doc : Json) (step : Step) :
    follow doc [step] = (stepInto doc step).filter (!·.isNull) := by
  rw [follow, walk]
  cases stepInto doc step <;> rfl

theorem Path.follow_dropNulls (doc : Json) {path : Path} (hne : path ≠ []) :
    follow doc.dropNulls path = follow doc path := by
  have hsingle (step : Step) : follow doc.dropNulls [step] = follow doc [step] := by
    rw [follow_single, follow_single]
    cases step with
    | key name => simp [stepInto, Json.member?_dropNulls]
    | index i => cases doc <;> rfl
  obtain ⟨step, rest, rfl⟩ := List.exists_cons_of_ne_nil hne
  by_cases hrest : rest = []
  · rw [hrest, hsingle]
  · rw [← List.singleton_append, follow_append _ _ hrest, follow_append _ _ hrest, hsingle]

namespace Config

/-- No lookup misses a key whose value is null. -/
theorem get_dropNulls (doc : Json) (text : String) : get doc.dropNulls text = get doc text := by
  rw [get, get]
  cases hpath : read? text with
  | none => rfl
  | some path => exact congrArg _ (follow_dropNulls doc (ne_nil_of_read? hpath))

theorem get_key (doc : Json) {name : String} (hname : (Step.key name).IsPlain) :
    get doc name = .ok ((doc.member? name).filter (!·.isNull)) := by
  rw [get_eq (read?_key hname), follow_single, stepInto]

theorem get_updateMember_of_ne {key name : String} (f : Json → Json) (doc : Json)
    (hname : (Step.key name).IsPlain) (hne : name ≠ key) :
    get (doc.updateMember key f) name = get doc name := by
  rw [get_key _ hname, get_key _ hname, Json.member?_updateMember, if_neg hne]

end Config

/-! ## Settings -/

open Config

theorem mapM_zipIdx_map {α β ε : Type} {f : α × Nat → Except ε β} {g : α → α}
    (h : ∀ a i, f (g a, i) = f (a, i)) (as : List α) :
    (as.map g).zipIdx.mapM f = as.zipIdx.mapM f := by
  rw [List.zipIdx_map, List.mapM_map]
  exact congrArg (as.zipIdx.mapM ·) (funext fun p => h p.1 p.2)

theorem ConnectionSettings.ofDocument_dropNulls (entry : Json) (path : String) :
    ofDocument entry.dropNulls path = ofDocument entry path := by
  simp only [ofDocument, stringList, get_dropNulls]

namespace ReaderSettings

/-- Settings depend on the connections and on what stands at other keys. -/
theorem ofDocument_congr {doc doc' : Json}
    (hconnections : readConnections doc' = readConnections doc)
    (hget : ∀ name, (Step.key name).IsPlain → name ≠ "connection" → get doc' name = get doc name) :
    ofDocument doc' = ofDocument doc := by
  simp (disch := decide) only [ofDocument, readDialect, string, require, hconnections, stringOr,
    optString, stringList, positive, optInt, floatOr, optFloat, readFetchSize, intOr,
    optSplitMode, hget]

theorem readConnections_dropNulls (doc : Json) :
    readConnections doc.dropNulls = readConnections doc := by
  simp only [readConnections, list, require, get_dropNulls]

theorem list_dropItemNulls (doc : Json) :
    list (doc.updateMember "connection" .dropItemNulls) "connection" =
      (list doc "connection").map (·.map .dropNulls) := by
  rw [list, list, require, require, get_key _ (by decide), get_key _ (by decide),
    Json.member?_updateMember, if_pos rfl]
  cases doc.member? "connection" with
  | none => rfl
  | some v => cases v <;> rfl

theorem readConnections_dropItemNulls (doc : Json) :
    readConnections (doc.updateMember "connection" .dropItemNulls) = readConnections doc := by
  rw [readConnections, readConnections, list_dropItemNulls]
  cases list doc "connection" with
  | error e => rfl
  | ok entries =>
    simp only [Except.map, bind, Except.bind]
    rw [mapM_zipIdx_map fun entry i =>
      ConnectionSettings.ofDocument_dropNulls entry (itemPath "connection" i)]

/-- A document without the keys whose values are null, those of its connections included. -/
def withoutNulls (doc : Json) : Json := (doc.updateMember "connection" .dropItemNulls).dropNulls

/-- A document without the keys whose values are null has the same settings. -/
theorem ofDocument_withoutNulls (doc : Json) : ofDocument (withoutNulls doc) = ofDocument doc := by
  calc ofDocument (withoutNulls doc)
      = ofDocument (doc.updateMember "connection" .dropItemNulls) :=
        ofDocument_congr (readConnections_dropNulls _) fun name _ _ => get_dropNulls _ name
    _ = ofDocument doc :=
        ofDocument_congr (readConnections_dropItemNulls doc) fun _ => get_updateMember_of_ne _ doc

end ReaderSettings

end TableExchange
