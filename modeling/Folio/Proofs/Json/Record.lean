import Folio.Config
import Folio.Proofs.Json.Text

/-!
# Records of written values

What a record is read from in the document of a value, and the options of a compilation, which are
read again from the value that they are written as.
-/

namespace Folio.Json

open Folio.Record

/-! ## Single values -/

theorem text?_source (s : String) : Readable.text? (source (.string s)) = some s := by
  show (unescape? (escaped s)).map String.ofList = some s
  rw [unescape?_escaped, Option.map_some, String.ofList_toList]

theorem flag?_source (b : Bool) : Readable.flag? (source (.bool b)) = some b := rfl

theorem choice?_source (s : String) : Readable.choice? (source (.string s)) = some s :=
  text?_source s

/-- A count is read if it fits a machine word. -/
theorem count?_source {n : Nat} (hn : n ≤ maxCount) :
    Readable.count? (source (.integer n)) = some n := by
  have hwritten : (toString (n : Int)).toList = Nat.toDigits 10 n := String.toList_ofList
  show Source.count? (.number (toString (n : Int)).toList) = some n
  rw [Source.count?, hwritten, isWhole_toDigits, Text.decimal_toDigits]
  simp [hn]

/-- A count that is read fits a machine word. -/
theorem le_maxCount_of_count? {document : Source} {n : Nat}
    (h : Readable.count? document = some n) : n ≤ maxCount := by
  replace h : Source.count? document = some n := h
  unfold Source.count? at h
  split at h
  case h_1 =>
    obtain ⟨hcount, heq⟩ := Option.ite_none_right_eq_some.1 h
    cases heq
    simp only [Bool.and_eq_true, decide_eq_true_eq] at hcount
    exact hcount.2
  case h_2 => cases h

/-- A list of written values is read value by value. -/
theorem list_source {α : Type} {read? : Source → Option α} {write : α → Json}
    (h : ∀ a, read? (write a).source = some a) (l : List α) :
    list read? (source (.ofList write l)) = some l := by
  show (itemSources (l.map write)).mapM read? = some l
  induction l with
  | nil => rfl
  | cons a l ih =>
      rw [List.map_cons, itemSources, List.mapM_cons, h a, ih]
      rfl

/-! ## Fields -/

/-- An entry with the characters of its name. -/
def named? (entry : List Char × Source) : Option (String × Source) :=
  (unescape? entry.1).map fun name => (String.ofList name, entry.2)

theorem fields?_object (names : List String) (entries : List (List Char × Source)) :
    Readable.fields? names (Source.object entries) =
      (entries.mapM named?).bind (pickAll? names) := by
  have hentry : named? = fun entry : List Char × Source =>
      (unescape? entry.1).bind fun name => some (String.ofList name, entry.2) := by
    funext entry
    rw [named?, Option.map_eq_bind]
    rfl
  rw [hentry]
  rfl

/-- The fields of a written object are those of its entries. -/
theorem fields?_source (names : List String) (entries : List (String × Json)) :
    Readable.fields? names (source (.object entries)) =
      pickAll? names (entries.map fun entry => (entry.1, source entry.2)) := by
  have hnamed : (entrySources entries).mapM named? =
      some (entries.map fun entry => (entry.1, source entry.2)) := by
    induction entries with
    | nil => rfl
    | cons entry entries ih =>
        obtain ⟨name, value⟩ := entry
        rw [entrySources, List.mapM_cons, ih, named?, unescape?_escaped, Option.map_some,
          String.ofList_toList]
        rfl
  rw [source, fields?_object, hnamed, Option.bind_some]

end Folio.Json

namespace Folio

open Json Record

/-! ## Options -/

theorem SelfLink.oneOf_source (link : SelfLink) :
    oneOf SelfLink.names (source (.string link.name)) = some link := by
  rw [oneOf, choice?_source]
  cases link <;> rfl

theorem OutlineSource.oneOf_source (origin : OutlineSource) :
    oneOf OutlineSource.names (source (.string origin.name)) = some origin := by
  rw [oneOf, choice?_source]
  cases origin <;> rfl

theorem ParseOptions.read?_source (options : ParseOptions) :
    ParseOptions.read? options.toJson.source = some options := by
  rw [ParseOptions.read?, toJson, fields?_source]
  simp [pickAll?, pick?, defaulted, flag?_source]

theorem CompileOptions.read?_source (options : CompileOptions) :
    CompileOptions.read? options.toJson.source = some options := by
  rw [CompileOptions.read?, toJson, fields?_source]
  simp [pickAll?, pick?, defaulted, flag?_source, text?_source, SelfLink.oneOf_source,
    OutlineSource.oneOf_source, ParseOptions.read?_source]

/-- A module that a binding does not have is not written, and not read either. -/
theorem Binding.read?_source (binding : Binding) :
    Binding.read? binding.toJson.source = some binding := by
  obtain ⟨name, element, modulePath⟩ := binding
  rw [Binding.read?, toJson, fields?_source]
  cases modulePath with
  | none => simp [pickAll?, pick?, required, Record.optional, text?_source]
  | some path =>
      have hpresent : Readable.isAbsent (source (.string path)) = false := rfl
      simp [pickAll?, pick?, required, Record.optional, text?_source, hpresent]

end Folio
