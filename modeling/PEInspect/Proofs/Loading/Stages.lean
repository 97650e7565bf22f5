import PEInspect.Proofs.Loading.Appearance

/-!
# Loading in stages

A file can be loaded at once, or in stages: its image is opened, a module is parsed out of the image
in some context, and the module is wrapped, which gives it a fresh context. A module that is parsed
in another context differs in its context alone (`parseModule_elsewhere`), and wrapping replaces just
that, so that both ways arrive at worlds that agree in all but calls and notices
(`file_of_stages`).
-/

namespace PEInspect

namespace World

/-- Two worlds differ at most in what has been called and noted. -/
def Agree (v u : World) : Prop :=
  ∃ trace log, u = { v with trace := trace, log := log }

/-- Worlds that agree are twins for every image. -/
lemma Agree.twins {v u : World} (agree : Agree v u) (i : Ref .image) : Twins i v u := by
  obtain ⟨trace, log, rfl⟩ := agree
  exact ⟨⟨_, _, _, _, _, rfl⟩, rfl, fun _ => rfl, rfl⟩

/-- Worlds that are alike agree if they have kept the images of worlds that agree. -/
lemma Agree.step {v u v' u' : World} (agree : Agree v u) (alike : Alike v' u')
    (left : SameImages v v') (right : SameImages u u') : Agree v' u' := by
  obtain ⟨trace, log, rfl⟩ := agree
  obtain ⟨handles, mappings, images, trace', log', rfl⟩ := alike
  obtain rfl : images = v'.images := right.images.trans left.images.symm
  obtain rfl : mappings = v'.mappings := right.mappings.trans left.mappings.symm
  obtain rfl : handles = v'.handles := right.handles.trans left.handles.symm
  exact ⟨trace', log', rfl⟩

end World

namespace Action

open World

/-- What is blind to an image comes to the same in worlds that agree, and leaves them agreeing. -/
lemma Blind.agree {α : Type} {i : Ref .image} {action : Action α} (blind : Blind i action)
    {v u v' : World} {r} (agree : Agree v u) (run : action.Runs v r v') :
    ∃ u', action.Runs u r u' ∧ Agree v' u' := by
  obtain ⟨r', x, u', runV, runU, alike, left, right⟩ := blind (agree.twins i)
  obtain ⟨rfl, rfl⟩ := run.unique runV
  exact ⟨u', runU, agree.step alike left right⟩

end Action

namespace Loading

open PEInspect.Action World Opening Parsing SymbolFormat

/-! ## Parsing a module in another context -/

/-- A module that is parsed out of an image comes out in every context and among any contexts, and
differs in its context alone. -/
lemma parseModule_elsewhere {l : Loader} {w v : World} {i : Ref .image} {context m}
    (run : (parseModule l i context).Runs w (.ok (.ok m)) v) :
    m = w.modules.next ∧ ∃ metadata, ∃ x : ManagedModule, ∀ trace contexts context', ∃ trace',
      (parseModule l i context').Runs { w with trace := trace, contexts := contexts } (.ok (.ok m))
        { w with
          trace := trace'
          contexts := contexts
          metadata := metadata
          modules := w.modules.add { x with context := some context' } } := by
  rw [parseModule] at run
  cases modules : l.modules with
  | standard =>
    rw [modules] at run
    have view := Images.runs_content i w
    cases content : Images.contentOf w.mappings (w.images.get i) with
    | error f =>
      rw [content] at view
      obtain ⟨_, _, run', run⟩ := run.bind_ok
      obtain ⟨same, -⟩ := run'.unique view.attempt
      cases same
      cases run
    | ok bytes =>
      rw [content] at view
      obtain ⟨r, u, run', prs⟩ := exists_parses (some context) view
      obtain ⟨same, rfl⟩ := run.unique run'
      cases same
      cases prs with
      | @complete md answer full =>
        refine ⟨rfl, w.metadata.add (opening w md),
          moduleOver w.metadata.next (w.images.get i).fileName (some i) none,
          fun trace contexts context' =>
            ⟨trace ++ [.metadataParsed bytes w.metadataParser.announced], ?_⟩⟩
        let u : World := { w with trace := trace, contexts := contexts }
        have view' : (Images.content i).Runs u (.ok bytes) u := content ▸ Images.runs_content i u
        have load : (load bytes).Runs u _ _ := runs_load_complete answer full
        exact runs_parseModule modules (.bind view'.attempt (.bind load
          (.bind (runs_image i _) (.bind (runs_addModule _ _) (runs_pure _ _)))))
  | scripted script =>
    rw [modules] at run
    obtain ⟨_, _, read, run⟩ := run.bind_ok
    cases read
    obtain ⟨_, _, called, run⟩ := run.bind_ok
    cases called
    cases script with
    | none => cases run
    | some script =>
      obtain ⟨_, _, made, run⟩ := run.bind_ok
      cases made
      cases run
      refine ⟨rfl, w.metadata, ⟨(w.images.get i).fileName, none, none, some i, .scripted script⟩,
        fun trace contexts context' =>
          ⟨trace ++ [.moduleParsed (w.images.get i).fileName], ?_⟩⟩
      rw [parseModule, modules]
      rfl

/-! ## Wrapping the module -/

/-- The type index of a module is on; a scripted module has been told so last. -/
def IndexOn (w : World) (m : Ref .module) : Prop :=
  match (w.modules.get m).body with
  | .scripted _ => w.trace.getLast? = some (.lookupSwitched true)
  | .parsed _ lookup => lookup.enabled = true

/-- A file stands on a module with an image, whose type index is on, and which has a context around
a resolver, for its assemblies and for its tokens, that projects nothing. -/
structure StandsOn (w : World) (f : Ref .file) (m : Ref .module) (i : Ref .image)
    (resolver : Option (Ref .resolver)) : Prop where
  backing : (w.files.get f).backing = .module m
  image : (w.modules.get m).image = some i
  index : IndexOn w m
  context : ∃ c, (w.modules.get m).context = some c ∧
    w.contexts.get c = { resolver := resolver, tokens := { resolver := resolver, projects := false } }

section Wrapping

variable {w v : World} {m : Ref .module} {extension : Document.Value} {symbols : Bool}
  {key : Option FileKey} {f : Ref .file}

/-- After it has been switched on, a type index is on. -/
lemma indexOn_indexed (there : m.index < w.modules.cells.length) : IndexOn (indexed w m) m := by
  rw [indexed]
  split
  · rename_i script body
    rw [IndexOn]
    dsimp only [World.called]
    rw [body]
    exact List.getLast?_concat
  · rename_i md lookup body
    rw [IndexOn]
    dsimp only [World.changedModule]
    rw [Arena.get_change, if_pos ⟨rfl, there⟩]
    rfl

/-- A type index stays on where the module and the trace are the same. -/
lemma IndexOn.kept (on : IndexOn w m) (body : (v.modules.get m).body = (w.modules.get m).body)
    (trace : v.trace = w.trace) : IndexOn v m := by
  rw [IndexOn, body, trace]
  exact on

/-- The type index of a module that has become a file is on. -/
lemma Wraps.indexOn (wrs : Wraps extension m symbols key w (.ok f) v)
    (there : m.index < w.modules.cells.length) : IndexOn v m := by
  have on := indexOn_indexed there
  cases wrs with
  | bare => exact on.kept rfl rfl
  | searched _ _ att =>
    obtain ⟨log, found, rfl⟩ := att.normal
    exact on.kept (Arena.get_change_same ManagedModule.body rfl m) rfl

/-- Wrapping keeps what hangs neither on the body nor on the symbols of the module. -/
lemma Wraps.keeps {α : Type} (p : ManagedModule → α)
    (same : ∀ x body found, p { x with body := body, symbols := found } = p x)
    (wrs : Wraps extension m symbols key w (.ok f) v) :
    p (v.modules.get m) = p (w.modules.get m) := by
  have kept : p ((indexed w m).modules.get m) = p (w.modules.get m) :=
    indexed_get p (fun x _ _ _ => same x _ x.symbols) m
  cases wrs with
  | bare => exact kept
  | searched _ _ att =>
    obtain ⟨log, found, rfl⟩ := att.normal
    refine (Arena.get_change_same p ?_ m).trans kept
    exact same _ _ _

/-- The file of a wrapped module stands on the module as it was before. -/
lemma Wraps.standsOn {i : Ref .image} {c : Ref .context} {resolver}
    (wrs : Wraps extension m symbols key w (.ok f) v) (there : m.index < w.modules.cells.length)
    (image : (w.modules.get m).image = some i) (context : (w.modules.get m).context = some c)
    (around : w.contexts.get c = .around resolver) : StandsOn v f m i resolver := by
  refine ⟨wrs.made.backing, ?_, wrs.indexOn there, c, ?_, ?_⟩
  · exact (wrs.keeps ManagedModule.image fun _ _ _ => rfl).trans image
  · exact (wrs.keeps ManagedModule.context fun _ _ _ => rfl).trans context
  · obtain ⟨_, _, _, _, -, -, rfl⟩ := wrs.normal
    exact around

end Wrapping

/-! ## One way and the other -/

/-- The stages of a loading, called one after the other: an image is opened, a module is parsed out
of it in some context, and the module is wrapped. -/
inductive InStages (l : Loader) (target : Target) (mapped : Document.Value) (context : Ref .context)
    (symbols : Bool) (resolver : Option (Ref .resolver)) (key : Option FileKey) (w : World) :
    Ref .image → Ref .module → Except Failure (Ref .file) → World → Prop where
  | intro {i m x y r u} :
    (openImage l target mapped).Runs w (.ok (.ok i)) x →
    (parseModule l i context).Runs x (.ok (.ok m)) y →
    (fromModule l m symbols resolver key).Runs y r u →
    InStages l target mapped context symbols resolver key w i m r u

/-- The world in which a module has been parsed in a fresh context. -/
def fresh (w : World) (resolver : Option (Ref .resolver)) (metadata : Arena .metadata OpenMetadata)
    (x : ManagedModule) : World :=
  { w with
    contexts := w.contexts.add (.around resolver)
    metadata := metadata
    modules := w.modules.add { x with context := some w.contexts.next } }

section Stages

variable {l : Loader} {w v : World} {i : Ref .image} {m : Ref .module} {symbols : Bool}
  {resolver : Option (Ref .resolver)} {key : Option FileKey} {f : Ref .file}

/-- The file of a module that has been parsed in a fresh context stands on the module. -/
lemma standsOn_fresh {y : World} {metadata} {x : ManagedModule} (image : x.image = some i)
    (agree : Agree (fresh w resolver metadata x) y)
    (wraps : (wrapModule l w.modules.next symbols key).Runs y (.ok f) v) :
    StandsOn v f w.modules.next i resolver := by
  obtain ⟨trace, log, rfl⟩ := agree
  obtain ⟨r, v', wraps', wrs⟩ := exists_wraps l _ w.modules.next symbols key
  obtain ⟨rfl, rfl⟩ := wraps.unique wraps'
  have module : (w.modules.add { x with context := some w.contexts.next }).get w.modules.next =
      { x with context := some w.contexts.next } := Arena.get_add_next _ _
  refine wrs.standsOn ?_ ?_ ?_ (Arena.get_add_next w.contexts _)
  · exact List.length_append ▸ Nat.lt_succ_self _
  · exact (congrArg ManagedModule.image module).trans image
  · exact congrArg ManagedModule.context module

/-- To parse a module in a fresh context and wrap it is to parse it in another one and wrap it with
a fresh context: both end in the same way, failures of the symbol step included. -/
lemma wrap_by_stages {trace text y r}
    (parsed : (parseModule l i w.contexts.next).Runs
      { w with trace := trace, contexts := w.contexts.add (.around resolver) } (.ok (.ok m)) y)
    (wraps : (wrapModule l m symbols key).Runs (y.noted text) r v) (context : Ref .context) :
    ∃ z u, (parseModule l i context).Runs w (.ok (.ok m)) z ∧
      (fromModule l m symbols resolver key).Runs z r u ∧ Agree v u ∧
      ∀ f, r = .ok f → StandsOn v f m i resolver ∧ StandsOn u f m i resolver := by
  have image := parseModule_image parsed
  obtain ⟨next, metadata, x, parses⟩ := parseModule_elsewhere parsed
  obtain rfl : m = w.modules.next := next
  obtain ⟨calls, parsed'⟩ := parses trace (w.contexts.add (.around resolver)) w.contexts.next
  obtain ⟨-, rfl⟩ := parsed.unique parsed'
  have made : (w.modules.add { x with context := some w.contexts.next }).get w.modules.next =
      { x with context := some w.contexts.next } := Arena.get_add_next _ _
  have owned : x.image = some i := (congrArg ManagedModule.image made).symm.trans image
  obtain ⟨calls', parse⟩ := parses w.trace w.contexts context
  let z : World := { w with
    trace := calls'
    metadata := metadata
    modules := w.modules.add { x with context := some context } }
  -- The fresh context replaces the one in which the module has been parsed.
  have adopts : adopted z w.modules.next resolver =
      { fresh w resolver metadata x with trace := calls' } := by
    simp only [adopted, World.withContext, World.changedModule, z, fresh, Arena.change_add_next]
  have agree : Agree (fresh w resolver metadata x) (adopted z w.modules.next resolver) := by
    rw [adopts]
    exact ⟨_, _, rfl⟩
  have agree' : Agree (fresh w resolver metadata x) (World.noted { fresh w resolver metadata x with
      trace := calls } text) := ⟨_, _, rfl⟩
  have both : Agree (World.noted { fresh w resolver metadata x with trace := calls } text)
      (adopted z w.modules.next resolver) := by
    rw [adopts]
    exact ⟨_, _, rfl⟩
  obtain ⟨u, wraps', same⟩ := (blind_wrapModule (i := i) l w.modules.next symbols key).agree both
    wraps
  refine ⟨z, u, parse, .bind (runs_addContext _ z) (.bind (runs_changeModule _ _ _) wraps'), same,
    ?_⟩
  rintro f rfl
  exact ⟨standsOn_fresh owned agree' wraps, standsOn_fresh owned agree wraps'⟩

/-- What is no image becomes an unrecognized file. -/
lemma kind_unrecognized {target : Target} (run : (unrecognized target key).Runs w (.ok f) v) :
    (v.files.get f).backing.kind = "UNRECOGNIZED" := by
  obtain ⟨path, _, -, run⟩ := run.bind_ok
  obtain ⟨name, _, -, run⟩ := run.bind_ok
  cases run
  exact congrArg (Backing.kind ∘ LoadedFile.backing) (World.get_withFile _ rfl)

/-- An image becomes a file of its kind. -/
lemma kind_ofImage (run : (Files.ofImage i key true).Runs w (.ok f) v) :
    (v.files.get f).backing.kind = "IMAGE" := by
  obtain ⟨x, _, -, run⟩ := run.bind_ok
  obtain ⟨name, _, -, run⟩ := run.bind_ok
  cases run
  exact congrArg (Backing.kind ∘ LoadedFile.backing) (World.get_withFile _ rfl)

/-- A file that shows a module has come out of an image through the stages for modules. -/
lemma classify_by_stages {label} (run : (classify l label i symbols resolver key).Runs w (.ok f) v)
    (kind : (v.files.get f).backing.kind = "MODULE") (context : Ref .context) :
    ∃ m z u, (parseModule l i context).Runs w (.ok (.ok m)) z ∧
      (fromModule l m symbols resolver key).Runs z (.ok f) u ∧ Agree v u ∧
      StandsOn v f m i resolver ∧ StandsOn u f m i resolver := by
  obtain ⟨managed, x, signed, run⟩ := run.bind_ok
  obtain ⟨trace, asked⟩ := Images.exists_directory i runtimeDirectoryIndex w
  cases managed with
  | false =>
    obtain ⟨_, _, -, run⟩ := run.bind_ok
    exact absurd ((kind_ofImage run).symm.trans kind) (by decide)
  | true =>
    obtain ⟨c, _, made, run⟩ := run.bind_ok
    cases made
    obtain ⟨result, y, parsed, run⟩ := run.bind_ok
    cases result with
    | error refusal =>
      obtain ⟨_, _, -, run⟩ := run.bind_ok
      exact absurd ((kind_ofImage run).symm.trans kind) (by decide)
    | ok m =>
      obtain ⟨name, _, named, noting⟩ := run.bind_ok
      obtain ⟨-, rfl⟩ := named.unique (runs_name y m)
      obtain ⟨_, _, noted, wraps⟩ := noting.bind_ok
      obtain ⟨-, rfl⟩ := noted.unique (runs_debug _ _)
      obtain ⟨entry, x', read, decided⟩ := signed.bind_ok
      obtain ⟨-, rfl⟩ := read.unique asked
      obtain ⟨-, rfl⟩ := decided.unique (runs_pure _ _)
      obtain ⟨z, u, parse, wraps', agree, stands⟩ := wrap_by_stages (w := w) parsed wraps
        context
      exact ⟨m, z, u, parse, wraps', agree, stands f rfl⟩

end Stages

/-- A file that worlds agree on looks the same in both. -/
lemma appearance_agree {v u : World} (agree : Agree v u) (f : Ref .file) :
    appearance u f = appearance v f := by
  have info : SameIn v u (Files.info f) := info_same (agree.twins ⟨0⟩).alike fun i _ => by
    obtain ⟨trace, log, rfl⟩ := agree
    rfl
  rw [appearance, appearance, show _ = _ from info]
  obtain ⟨trace, log, rfl⟩ := agree
  rfl

/-- Loading comes to the same at once and in stages: where it comes to a module, opening the image,
parsing the module in any context and wrapping it succeeds as well, with the same file over the same
module and image, in a world that agrees in all but calls and notices. The file shows the same, its
type index is on, and its context is a fresh one around the resolver. -/
theorem file_of_stages {l : Loader} {w v : World} {target : Target} {mapped : Document.Value}
    {symbols : Bool} {resolver : Option (Ref .resolver)} {key : Option FileKey} {f : Ref .file}
    (run : (fromTarget l target mapped symbols resolver key).Runs w (.ok f) v)
    (kind : (v.files.get f).backing.kind = "MODULE") (context : Ref .context) :
    ∃ i m u, InStages l target mapped context symbols resolver key w i m (.ok f) u ∧ Agree v u ∧
      appearance u f = appearance v f ∧ StandsOn v f m i resolver ∧ StandsOn u f m i resolver := by
  obtain ⟨result, x, open_, run⟩ := run.bind_ok
  cases result with
  | error refusal =>
    obtain ⟨_, _, -, run⟩ := run.bind_ok
    exact absurd ((kind_unrecognized run).symm.trans kind) (by decide)
  | ok i =>
    obtain ⟨m, y, u, parse, wraps, agree, stands, stands'⟩ := classify_by_stages run kind context
    exact ⟨i, m, u, .intro open_ parse wraps, agree, appearance_agree agree f, stands, stands'⟩

/-- A module with symbols beside it is loaded at once and in stages, in a context of nobody. -/
theorem file_of_stages_symbols : ∃ f v i m u,
    (fromTarget {} (.path "/srv/.//Lib.dll") (.bool true) true (some ⟨3⟩) none).Runs
        symbolWorld (.ok f) v ∧
      (v.files.get f).backing.kind = "MODULE" ∧
      InStages {} (.path "/srv/.//Lib.dll") (.bool true) ⟨7⟩ true (some ⟨3⟩) none
        symbolWorld i m (.ok f) u ∧
      symbolsOf u (u.files.get f).backing =
        some ⟨.ofString "/srv/Lib.pdb", .portable, portableMagic⟩ ∧
      StandsOn u f m i (some ⟨3⟩) := by
  obtain ⟨r, v, run, told⟩ := exists_foretold (l := {}) rfl rfl symbolWorld "/srv/.//Lib.dll"
    (.bool true) true (some ⟨3⟩) none
  cases r with
  | error failure => cases told.symm.trans foretold_symbolWorld
  | ok f =>
    have same := Except.ok.inj (told.symm.trans foretold_symbolWorld)
    have kind : (v.files.get f).backing.kind = "MODULE" := congrArg Appearance.kind same
    obtain ⟨i, m, u, stages, agree, again, -, stands⟩ := file_of_stages run kind ⟨7⟩
    exact ⟨f, v, i, m, u, run, kind, stages, congrArg Appearance.symbols (again.trans same), stands⟩

end Loading

end PEInspect
