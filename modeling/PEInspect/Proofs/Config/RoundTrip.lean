import PEInspect.Proofs.Config.Precedence
import PEInspect.Proofs.Json.RoundTrip

/-!
# Configuration round trip

A configuration is written as JSON text and read back. The document that is read is the one that was
written, and merging it over the defaults gives every setting its value again, since both sections
stand in it with all of their keys (`json_round_trip`).
-/

namespace PEInspect

namespace Json

/-- Blanks for a margin, however many. -/
lemma isBlank_spaces (n : Nat) : (Layout.indented (List.replicate n ' ')).IsBlank := by
  intro c mem
  rw [List.eq_of_mem_replicate mem]
  rfl

end Json

namespace Config

open Document Json

variable {c : Config}

/-- The levels that are left for the values of settings below the document and its sections. -/
def settingLevels : Nat := maxDepth - 2

/-- Settings alone tell what document a configuration without further entries is. -/
lemma toTable_congr {c' : Config} (same : ∀ s, c'.get s = c.get s)
    (bare : ∀ sec, c.further sec = []) (bare' : ∀ sec, c'.further sec = []) :
    c'.toTable = c.toTable := by
  have sections (sec : Section) : c'.sectionTable sec = c.sectionTable sec := by
    rw [sectionTable, sectionTable, bare, bare', funext same]
  rw [toTable, toTable, funext sections]

/-- The document of a configuration fits where its settings do. -/
lemma fits_toTable {levels : Nat} (fits : ∀ s, Fits levels (c.get s))
    (bare : ∀ sec, c.further sec = []) : Fits (levels + 2) (.table c.toTable) := by
  have inner (sec : Section) : Fits (levels + 1) (.table (c.sectionTable sec)) := by
    rw [sectionTable, bare, List.append_nil]
    refine .table ?_ fun e mem => ?_
    · have keys : ((Setting.all sec).map fun s => (s.key, c.get s)).map Prod.fst =
          (Setting.all sec).map Setting.key := List.map_map
      rw [keys]
      cases sec <;> decide
    · obtain ⟨s, -, rfl⟩ := List.mem_map.mp mem
      exact fits s
  refine .table ?_ fun e mem => ?_
  · change ([Section.loader, .output].map Section.name).Nodup
    decide
  · obtain ⟨sec, -, rfl⟩ := List.mem_map.mp mem
    exact inner sec

/-- The document of a configuration gives each setting its value. -/
lemma get_overlay_toTable (c d : Config) (s : Setting) :
    (d.overlay (some c.toTable)).get s = c.get s := by
  rw [get_overlay]
  cases s <;> rfl

/-- A configuration without further entries is read back from its JSON text. -/
theorem json_round_trip {layout : Layout} (blank : layout.IsBlank)
    (bare : ∀ sec, c.further sec = []) (fits : ∀ s, Fits settingLevels (c.get s)) :
    ∃ text c', c.toJson layout = .ok text ∧ Json.read text = .ok (.table c.toTable) ∧
      (ofJson text).outcome.1 = .ok c' ∧ (∀ s, c'.get s = c.get s) ∧ c'.toTable = c.toTable := by
  obtain ⟨text, written, read⟩ := read_written (fits_toTable fits bare) blank
  have merged : (ofJson text).Gives (.ok (({} : Config).overlay (some c.toTable))) := by
    rw [ofJson, read]
    exact merge_gives {} c.toTable
  have same := get_overlay_toTable c {}
  have bare' : ∀ sec, (({} : Config).overlay (some c.toTable)).further sec = [] :=
    further_overlay (fun sec => by cases sec <;> rfl) _
  refine ⟨text, _, ?_, read, merged.outcome, same, toTable_congr same bare bare'⟩
  rw [toJson, written]

/-- A configuration with quotes, control characters and characters beyond the first plane in one
setting, and a table inside a list in another. -/
def nestedSettings : Config :=
  (({} : Config).set .symbolExtension (.text ".\"\\\n\x1fé𝄞")).set .logLevel
    (.list [.null, .int (-7), .table [("ü", .bool true), ("", .text "")]])

/-- Lists and tables inside each other come back from a text with indentation. -/
theorem json_round_trip_nestedSettings :
    (∀ sec, nestedSettings.further sec = []) ∧
      ∃ text c', nestedSettings.toJson (.indented (List.replicate 2 ' ')) = .ok text ∧
        (ofJson text).outcome.1 = .ok c' ∧ c'.toTable = nestedSettings.toTable := by
  have bare : ∀ sec, nestedSettings.further sec = [] := fun sec => by cases sec <;> rfl
  have digits (most : Nat) (pos : most ≠ 0) : (-7 : Int).natAbs < Nat.pow 10 most :=
    Nat.lt_of_lt_of_le (by decide) (Nat.le_self_pow pos 10)
  have short : Text.isLongNumber (-7) = false := by
    rw [Text.isLongNumber, decide_eq_false_iff_not, Nat.not_le]
    exact digits Text.maxDigits (by decide)
  have fits : ∀ s, Fits settingLevels (nestedSettings.get s) := by
    intro s
    cases s with
    | mappedIo | loadSymbols | verbose => exact .bool
    | symbolExtension => exact .text
    | logLevel =>
      have inner : Fits (settingLevels - 1) (.table [("ü", .bool true), ("", .text "")]) :=
        .table (by decide) (List.forall_mem_cons.mpr ⟨.bool, List.forall_mem_singleton.mpr .text⟩)
      refine .list (List.forall_mem_cons.mpr ⟨.null, List.forall_mem_cons.mpr ⟨.int short, ?_⟩⟩)
      exact List.forall_mem_singleton.mpr inner
  obtain ⟨text, c', written, -, readBack, -, same⟩ :=
    json_round_trip (isBlank_spaces 2) bare fits
  exact ⟨bare, text, c', written, readBack, same⟩

end Config

end PEInspect
