import PEInspect.Proofs.Loading.Appearance

/-!
# The key of a loaded file

A file that is loaded without a key goes by the path that it remembers, and what it remembers
depends on what was found: a path that is not recognized is kept as it is spelled, while the path of
an image or of a module is brought into normal form. Two loads of one spelling therefore agree on
the key if both or none of them find an image, and else only if the spelling is in normal form
already (`default_keys_agree_iff`).
-/

namespace PEInspect.Loading

/-- The path that a file of some kind remembers of the text it was loaded from. -/
def remembered (kind text : String) : String :=
  if kind = "UNRECOGNIZED" then text else Path.normalize text

/-- Two files remember the same path if an image is found both times or neither time, or the path is
normal. -/
lemma remembered_eq_iff (kind kind' text : String) :
    remembered kind text = remembered kind' text ↔
      (kind = "UNRECOGNIZED" ↔ kind' = "UNRECOGNIZED") ∨ Path.normalize text = text := by
  rw [remembered, remembered]
  by_cases unknown : kind = "UNRECOGNIZED" <;> by_cases unknown' : kind' = "UNRECOGNIZED" <;>
    simp [unknown, unknown', eq_comm]

/-- The path and the key that are foretold of a file. -/
lemma remembered_of_foretold {o : Outside} {extension text mapped symbols key a}
    (told : foretold o extension text mapped symbols key = .ok a) :
    a.path = remembered a.kind text ∧ a.key = key.getD (.filename a.path) := by
  obtain rfl | ⟨_, rfl⟩ | ⟨_, _, _, rfl⟩ := foretold_cases told
  · exact ⟨(if_pos rfl).symm, rfl⟩
  · exact ⟨(if_neg (show "IMAGE" ≠ "UNRECOGNIZED" by decide)).symm, rfl⟩
  · exact ⟨(if_neg (show "MODULE" ≠ "UNRECOGNIZED" by decide)).symm, rfl⟩

section Keys

variable {l : Loader} {w v : World} {text : String} {mapped : Document.Value} {symbols : Bool}
  {resolver : Option (Ref .resolver)} {f : Ref .file}

/-- A file that is loaded without a key goes by the path that it remembers. -/
lemma remembered_of_run {key : Option FileKey} (images : l.images = .standard)
    (modules : l.modules = .standard)
    (run : (fromTarget l (.path text) mapped symbols resolver key).Runs w (.ok f) v) :
    (v.files.get f).path = remembered (v.files.get f).backing.kind text ∧
      (v.files.get f).key = key.getD (.filename (v.files.get f).path) := by
  have told : foretold w.outside l.symbolExtension text mapped.isTruthy symbols key =
      .ok (appearance v f) := (fromTarget_loads images modules run).foretold
  exact remembered_of_foretold told

variable {l' : Loader} {w' v' : World} {mapped' : Document.Value} {symbols' : Bool}
  {resolver' : Option (Ref .resolver)} {f' : Ref .file}

/-- Two files that are loaded from one spelling of a path, each in a world of its own, have the same
key exactly if they remember the same path: if an image is found both times or neither time, or the
spelling is in normal form. -/
theorem default_keys_agree_iff (images : l.images = .standard) (modules : l.modules = .standard)
    (images' : l'.images = .standard) (modules' : l'.modules = .standard)
    (run : (fromTarget l (.path text) mapped symbols resolver none).Runs w (.ok f) v)
    (run' : (fromTarget l' (.path text) mapped' symbols' resolver' none).Runs w' (.ok f') v') :
    let x := v.files.get f
    let y := v'.files.get f'
    (x.path = remembered x.backing.kind text ∧ x.key = .filename x.path) ∧
      (y.path = remembered y.backing.kind text ∧ y.key = .filename y.path) ∧
      (x.key = y.key ↔ x.path = y.path) ∧
      (x.key = y.key ↔
        (x.backing.kind = "UNRECOGNIZED" ↔ y.backing.kind = "UNRECOGNIZED") ∨
          Path.normalize text = text) := by
  intro x y
  have first : x.path = remembered x.backing.kind text ∧ x.key = .filename x.path :=
    remembered_of_run images modules run
  have second : y.path = remembered y.backing.kind text ∧ y.key = .filename y.path :=
    remembered_of_run images' modules' run'
  have keys : x.key = y.key ↔ x.path = y.path := by
    rw [first.2, second.2, FileKey.filename.injEq]
  refine ⟨first, second, keys, keys.trans ?_⟩
  rw [first.1, second.1]
  exact remembered_eq_iff x.backing.kind y.backing.kind text

end Keys

/-- The key of a missing file differs from that of the module that is found there later. -/
theorem default_keys_differ : ∃ f v f' v',
    (fromTarget {} (.path "./Lib.dll") (.bool true) true none none).Runs {} (.ok f) v ∧
      (fromTarget {} (.path "./Lib.dll") (.bool true) true none none).Runs
        (moduleWorld "Lib.dll".toList) (.ok f') v' ∧
      (v.files.get f).key = .filename "./Lib.dll" ∧
      (v'.files.get f').key = .filename "Lib.dll" ∧
      (v.files.get f).key ≠ (v'.files.get f').key := by
  obtain ⟨r, v, run, told⟩ := exists_foretold (l := {}) rfl rfl {} "./Lib.dll" (.bool true)
    true none none
  obtain ⟨r', v', run', told'⟩ := exists_foretold (l := {}) rfl rfl (moduleWorld "Lib.dll".toList)
    "./Lib.dll" (.bool true) true none none
  have shows : foretold (World.outside {}) (.text ".pdb") "./Lib.dll" true true none =
      .ok (.plain "UNRECOGNIZED" "./Lib.dll" none 0) := by
    cbv
  have shows' : foretold (moduleWorld "Lib.dll".toList).outside (.text ".pdb") "./Lib.dll" true
      true none = .ok (.managed "Lib.dll" none smallImage.length smallTables none) := by
    cbv
  cases r with
  | error failure => cases told.symm.trans shows
  | ok f =>
    cases r' with
    | error failure => cases told'.symm.trans shows'
    | ok f' =>
      have missing := Except.ok.inj (told.symm.trans shows)
      have found := Except.ok.inj (told'.symm.trans shows')
      obtain ⟨first, second, -, agree⟩ := default_keys_agree_iff rfl rfl rfl rfl run run'
      refine ⟨f, v, f', v', run, run', congrArg Appearance.key missing,
        congrArg Appearance.key found, fun same => ?_⟩
      have kind : (v.files.get f).backing.kind = "UNRECOGNIZED" := congrArg Appearance.kind missing
      have kind' : (v'.files.get f').backing.kind = "MODULE" := congrArg Appearance.kind found
      obtain both | normal := agree.mp same
      · rw [kind, kind'] at both
        exact absurd (both.mp rfl) (by decide)
      · exact absurd normal (by decide)

end PEInspect.Loading
