import KeyNaming.Key.Registry
import KeyNaming.Proofs.Entries

/-!
Registries that grow parameter by parameter.

A registry with one more parameter is made anew from the parameters of the old
one. It holds each of them once, under its own name in lower case, so making it
anew puts all of them where they were, and the new one behind them or in the
place of the one it replaces. Whether parameters are added one after the other
or given all at once makes no difference.
-/

namespace KeyNaming

namespace Registry

/-- A parameter under the name that it is looked up by. -/
def keyed (info : ParameterInfo) : Text × ParameterInfo := (info.name.lower, info)

theorem ofInfos_eq (infos : List ParameterInfo) (fallback : Classification) :
    ofInfos infos fallback = ⟨Entries.ofPuts (· == ·) (infos.map keyed), fallback⟩ := by
  simp [ofInfos, Entries.ofPuts, List.foldl_map, keyed]

theorem withInfo_eq (r : Registry) (info : ParameterInfo) :
    r.withInfo info =
      ⟨(Entries.ofPuts (· == ·) ((Entries.values r.entries).map keyed)).put (· == ·)
        info.name.lower info, r.fallback⟩ := by
  simp [withInfo, ofInfos_eq, Entries.ofPuts_concat, keyed]

/-! ## What a registry holds -/

section

variable (infos : List ParameterInfo) (fallback : Classification)

/-- Each parameter stands under its own name. -/
theorem map_keyed_values_ofInfos :
    (Entries.values (ofInfos infos fallback).entries).map keyed =
      (ofInfos infos fallback).entries := by
  have hown : ∀ entry ∈ (ofInfos infos fallback).entries, keyed entry.2 = entry := by
    intro entry hentry
    rw [ofInfos_eq] at hentry
    obtain ⟨info, _, rfl⟩ := List.mem_map.mp (Entries.mem_of_mem_ofPuts _ hentry)
    rfl
  rw [Entries.values, List.map_map]
  exact (List.map_congr_left hown).trans (List.map_id' _)

/-- Putting what a registry holds gives what it holds. -/
theorem ofPuts_values_ofInfos :
    Entries.ofPuts (· == ·) ((Entries.values (ofInfos infos fallback).entries).map keyed) =
      (ofInfos infos fallback).entries := by
  rw [map_keyed_values_ofInfos]
  apply Entries.ofPuts_eq_self
  simp only [ofInfos_eq]
  exact Entries.pairwise_keys_ofPuts _ _

/-- The names are those of the parameters in lower case, each of them once and in
the place where it came first. -/
theorem names_ofInfos :
    (ofInfos infos fallback).names =
      (infos.map fun info => info.name.lower).eraseDups := by
  have hnames : (infos.map keyed).map Prod.fst = infos.map fun info => info.name.lower := by
    simp [keyed]
  have hkeys := Entries.keys_ofPuts (Entries.equivalence_beq Text) (infos.map keyed)
  rw [hnames] at hkeys
  rw [names, ofInfos_eq]
  exact hkeys

/-- A name finds the last of the parameters that have it, regardless of case. -/
theorem info?_ofInfos (name : Text) :
    (ofInfos infos fallback).info? name =
      infos.reverse.find? fun info => info.name.lower == name.lower := by
  rw [info?, ofInfos_eq, Entries.get?_ofPuts (Entries.equivalence_beq Text), Entries.latest?,
    ← List.map_reverse, List.find?_map, Option.map_map]
  exact Option.map_id'

/-- One more parameter is what comes after all that were given. -/
theorem withInfo_ofInfos (info : ParameterInfo) :
    (ofInfos infos fallback).withInfo info = ofInfos (infos ++ [info]) fallback := by
  rw [withInfo_eq, ofPuts_values_ofInfos]
  simp [ofInfos_eq, Entries.ofPuts_concat, keyed]

/-- The new parameter is found under its name, and all else under the others. -/
theorem info?_withInfo_ofInfos (info : ParameterInfo) (name : Text) :
    ((ofInfos infos fallback).withInfo info).info? name =
      if info.name.lower == name.lower then some info else (ofInfos infos fallback).info? name := by
  simp only [withInfo_ofInfos, info?_ofInfos, List.reverse_append, List.reverse_singleton,
    List.singleton_append, List.find?_cons]
  split <;> simp_all

end

/-! ## What a registry says of a name -/

/-- Whether two registries say the same of a name. -/
structure SaysSame (r r' : Registry) (name : Text) : Prop where
  info : r.info? name = r'.info? name
  contains : r.contains name = r'.contains name
  classify : r.classify (some name) = r'.classify (some name)
  pattern : r.pattern? (some name) = r'.pattern? (some name)
  order : r.sortOrder name = r'.sortOrder name

/-- All that is said of a name is told from the parameter that it finds, and from
the classification of those that find none. -/
theorem SaysSame.of_info? {r r' : Registry} {name : Text} (hinfo : r.info? name = r'.info? name)
    (hfallback : r.fallback = r'.fallback) : SaysSame r r' name where
  info := hinfo
  contains := by simp only [Registry.contains, hinfo]
  classify := by simp only [Registry.classify, hinfo, hfallback]
  pattern := by cases name <;> simp only [pattern?, hinfo]
  order := by simp only [sortOrder, hinfo]

/-- Parameters added one by one make the same registry as parameters given all at
once, with its names in the same order. One more parameter changes what is said of
the names that are its own in lower case, and of no others. -/
theorem foldl_withInfo_and_frame (infos added : List ParameterInfo) (fallback : Classification) :
    added.foldl withInfo (ofInfos infos fallback) = ofInfos (infos ++ added) fallback ∧
      ∀ info name, name.lower ≠ info.name.lower →
        SaysSame ((ofInfos infos fallback).withInfo info) (ofInfos infos fallback) name := by
  constructor
  · induction added generalizing infos with
    | nil => simp
    | cons info rest ih =>
        rw [List.foldl_cons, withInfo_ofInfos, ih]
        simp
  · intro info name hname
    apply SaysSame.of_info?
    · simp [info?_withInfo_ofInfos, hname.symm]
    · rw [withInfo_ofInfos]
      rfl

/-- A parameter that is replaced keeps its place. -/
example :
    let r := (ofInfos [⟨"Type", .canonical, 2000, none⟩, ⟨"Key", .canonical, 6000, none⟩]
      .canonical).withInfo ⟨"TYPE", .unclassified, 0, none⟩
    r.names = ["type", "key"] ∧ r.classify (some (Text.ofString "tYpe")) = .unclassified := by
  decide

end Registry

end KeyNaming
