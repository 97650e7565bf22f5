import Mathlib.Data.List.Induction
import PEInspect.Proofs.Loading.Blindness
import PEInspect.Proofs.Loading.Classification

/-!
# Calls of the parsers

Which calls of the two parsers opening and loading make. Every step of a session, whatever it comes
to, asks the parsers for what is due and for nothing else (`asks_deed`): the header parser once for a
content that has the signature of an image, and the metadata parser once for the content of an image
that has been opened and is managed. All calls of the header parser come in order (`Orderly`), so
that in a whole session its log is silenced once, right before the first of them
(`parsers_called_as_due`).
-/

namespace PEInspect

/-- What one of the parsers is asked for. -/
inductive ParserRequest where
  | headers (source : HeaderSource)
  | metadata (content : Bytes)
  deriving Repr, DecidableEq

namespace Event

/-- The request that a call makes of a parser. -/
def request? : Event → Option ParserRequest
  | .headersParsed source _ => some (.headers source)
  | .metadataParsed content _ => some (.metadata content)
  | _ => none

def silencesHeaders : Event → Bool
  | .headerLogSilenced _ => true
  | _ => false

/-- Whether a call goes to the header parser, for its log or for headers. -/
def concernsHeaders : Event → Bool
  | .headerLogSilenced _ => true
  | .headersParsed _ _ => true
  | _ => false

end Event

namespace Parsers

open PEInspect.Action Opening Parsing Loading

/-! ## The order of calls -/

/-- Calls in order, between two states of the header parser's log: as long as the log is not silent,
headers are only parsed right after it has been silenced, and a silent log is not silenced again. -/
inductive Orderly : Bool → List Event → Bool → Prop where
  | nil {silent} : Orderly silent [] silent
  | other {silent silent' e events} :
    e.concernsHeaders = false →
    Orderly silent events silent' →
    Orderly silent (e :: events) silent'
  | first {announced source announced' events silent'} :
    Orderly true events silent' →
    Orderly false (.headerLogSilenced announced :: .headersParsed source announced' :: events)
      silent'
  | again {source announced events silent'} :
    Orderly true events silent' →
    Orderly true (.headersParsed source announced :: events) silent'

/-- The header parser's log is never silenced and headers are never parsed, or the log is silenced
once, right before headers are parsed for the first time. -/
inductive SilencedFirst : List Event → Prop where
  | never {events} :
    (∀ e ∈ events, e.concernsHeaders = false) →
    SilencedFirst events
  | once {before announced source announced' rest} :
    (∀ e ∈ before, e.concernsHeaders = false) →
    (∀ e ∈ rest, e.silencesHeaders = false) →
    SilencedFirst
      (before ++ .headerLogSilenced announced :: .headersParsed source announced' :: rest)

/-- Calls that do not go to the header parser are in order. -/
lemma orderly_others {events : List Event} (others : ∀ e ∈ events, e.concernsHeaders = false)
    (silent : Bool) : Orderly silent events silent := by
  induction events with
  | nil => exact .nil
  | cons e events ih =>
    have rest := ih fun e' mem => others e' (List.mem_cons_of_mem e mem)
    exact .other (others e List.mem_cons_self) rest

/-- Orderly calls can follow each other. -/
lemma Orderly.append {a b c : Bool} {first second : List Event} (ord : Orderly a first b)
    (ord' : Orderly b second c) : Orderly a (first ++ second) c := by
  induction ord with
  | nil => exact ord'
  | other free _ ih => exact .other free (ih ord')
  | first _ ih => exact .first (ih ord')
  | again _ ih => exact .again (ih ord')

/-- A silent log is not silenced again. -/
lemma Orderly.not_silenced {silent : Bool} {events : List Event} (ord : Orderly true events silent) :
    ∀ e ∈ events, e.silencesHeaders = false := by
  generalize start : true = silent' at ord
  induction ord with
  | nil => exact fun _ mem => absurd mem List.not_mem_nil
  | @other _ _ e events free _ ih =>
    have plain : e.silencesHeaders = false := by
      cases e <;> first | rfl | cases free
    exact List.forall_mem_cons.mpr ⟨plain, ih start⟩
  | first => cases start
  | again _ ih => exact List.forall_mem_cons.mpr ⟨rfl, ih rfl⟩

/-- Orderly calls silence the log at first, if it is not silent yet. -/
lemma Orderly.silencedFirst {silent : Bool} {events : List Event}
    (ord : Orderly false events silent) : SilencedFirst events := by
  generalize start : false = silent' at ord
  induction ord with
  | nil => exact .never fun _ mem => absurd mem List.not_mem_nil
  | other free _ ih =>
    cases ih start with
    | never others => exact .never (List.forall_mem_cons.mpr ⟨free, others⟩)
    | once others rest =>
      rw [← List.cons_append]
      exact .once (List.forall_mem_cons.mpr ⟨free, others⟩) rest
  | first ord =>
    have free : ∀ e ∈ ([] : List Event), e.concernsHeaders = false :=
      fun _ mem => absurd mem List.not_mem_nil
    exact .once free ord.not_silenced
  | again => cases start

/-! ## What a world asks on the way to another one -/

/-- On the way from one world to another, the calls are in order and make some requests. -/
def Asks (w : World) (requests : List ParserRequest) (v : World) : Prop :=
  ∃ events, v.trace = w.trace ++ events ∧ events.filterMap Event.request? = requests ∧
    Orderly w.headerLogSilenced events v.headerLogSilenced

section Asks

variable {w v u : World}

/-- What is asked on the way over a third world is asked one after the other. -/
lemma Asks.trans {first second : List ParserRequest} (asks : Asks w first v) (asks' : Asks v second u) :
    Asks w (first ++ second) u := by
  obtain ⟨events, trace, rfl, ord⟩ := asks
  obtain ⟨events', trace', rfl, ord'⟩ := asks'
  refine ⟨events ++ events', ?_, List.filterMap_append, ord.append ord'⟩
  rw [trace', trace, List.append_assoc]

/-- Calls that do not go to the header parser make their own requests. -/
lemma asks_of_others {events : List Event} {requests : List ParserRequest}
    (trace : v.trace = w.trace ++ events) (silent : v.headerLogSilenced = w.headerLogSilenced)
    (made : events.filterMap Event.request? = requests)
    (others : ∀ e ∈ events, e.concernsHeaders = false) : Asks w requests v :=
  ⟨events, trace, made, silent ▸ orderly_others others _⟩

/-- Nothing is asked where nothing is called. -/
lemma asks_nothing (trace : v.trace = w.trace)
    (silent : v.headerLogSilenced = w.headerLogSilenced) : Asks w [] v :=
  asks_of_others (trace.trans (List.append_nil _).symm) silent rfl
    fun _ mem => absurd mem List.not_mem_nil

/-- Letting go of a view and of the handle below it asks for nothing. -/
lemma asks_released (w : World) (view : View) (handle : Option (Ref .handle)) :
    Asks w [] (w.released view handle) := by
  cases view with
  | memory content =>
    cases handle with
    | none => exact asks_nothing rfl rfl
    | some h => exact asks_of_others rfl rfl rfl (List.forall_mem_singleton.mpr rfl)
  | mapped map =>
    cases handle with
    | none => exact asks_of_others rfl rfl rfl (List.forall_mem_singleton.mpr rfl)
    | some h =>
      refine asks_of_others (List.append_assoc w.trace [_] [_]) rfl rfl ?_
      exact List.forall_mem_cons.mpr ⟨rfl, List.forall_mem_singleton.mpr rfl⟩

/-- A call of the header parser is in order. -/
lemma asks_headers {source : HeaderSource} (trace : v.trace = (w.headersParsed source).trace)
    (silent : v.headerLogSilenced = true) : Asks w [.headers source] v := by
  refine ⟨_, trace.trans (List.append_assoc _ _ _), ?_⟩
  rw [silent]
  cases w.headerLogSilenced with
  | false => exact ⟨rfl, .first .nil⟩
  | true => exact ⟨rfl, .again .nil⟩

end Asks

/-! ## What is due -/

/-- The content of a target, if it can be read. -/
def content? (disk : Disk) : Target → Option Bytes
  | .content bytes => some bytes
  | .path text => (disk.read (.ofString text)).toOption

/-- The content of a target, if it can be read and has the signature of an image. -/
def vetted? (w : World) (target : Target) : Option Bytes :=
  (content? w.disk target).filter looksLikeImage

/-- What the header parser is given of a target. -/
def sourceFor (mapped : Bool) (content : Bytes) : Target → HeaderSource
  | .content _ => .memory content
  | .path text => sourceOf (.ofString text) mapped content

/-- The content and the directories of the image that a target is opened as. -/
def found? (w : World) (target : Target) (mapped : Bool) : Option (Bytes × DirectoryTable) :=
  (vetted? w target).bind fun content =>
    match w.headerParser.parse (sourceFor mapped content target) with
    | .found directories => some (content, directories)
    | _ => none

/-- The requests that opening a target makes. -/
def headerRequests (w : World) (target : Target) (mapped : Bool) : List ParserRequest :=
  (vetted? w target).toList.map fun content => .headers (sourceFor mapped content target)

/-- The requests that an image makes when it is classified. -/
def imageRequests (content : Bytes) (directories : DirectoryTable) : List ParserRequest :=
  if directories.runtime.isManaged then [.metadata content] else []

/-- The requests that loading a target makes after it has been opened. -/
def metadataRequests (w : World) (target : Target) (mapped : Bool) : List ParserRequest :=
  match found? w target mapped with
  | some (content, directories) => imageRequests content directories
  | none => []

/-! ## Opening -/

/-- An image shows a content and directories. -/
structure Shows (w : World) (i : Ref .image) (content : Bytes) (directories : DirectoryTable) :
    Prop where
  body : ∃ view handle, (w.images.get i).body = .parsed (some directories) view handle
  content : Images.contentOf w.mappings (w.images.get i) = .ok content

/-- What opening a target answers: an image of what is found, or a refusal. -/
inductive Answers (found : Option (Bytes × DirectoryTable)) (v : World) :
    Except Refusal (Ref .image) → Prop where
  | refused {refusal} :
    found = none →
    Answers found v (.error refusal)
  | opened {i content directories} :
    found = some (content, directories) →
    Shows v i content directories →
    Answers found v (.ok i)

section Opening

variable {w : World} {target : Target} {mapped : Bool} {content : Bytes}

/-- A content that can be read is vetted by its signature. -/
lemma vetted?_of_content (read : content? w.disk target = some content) :
    vetted? w target = if looksLikeImage content then some content else none := by
  rw [vetted?, read, Option.filter_some]

/-- A content without a signature is not vetted. -/
lemma unvetted (read : content? w.disk target = some content)
    (plain : looksLikeImage content = false) : vetted? w target = none := by
  rw [vetted?_of_content read, plain]
  rfl

/-- A content with a signature is vetted. -/
lemma vetted (read : content? w.disk target = some content)
    (signed : looksLikeImage content = true) : vetted? w target = some content := by
  rw [vetted?_of_content read, signed]
  rfl

/-- Nothing is due for a target without a signature. -/
lemma found?_of_unvetted (mapped : Bool) (none_ : vetted? w target = none) :
    headerRequests w target mapped = [] ∧ found? w target mapped = none := by
  rw [headerRequests, found?, none_]
  exact ⟨rfl, rfl⟩

/-- One request is due for a target with a signature, and its answer decides what is found. -/
lemma found?_of_vetted (mapped : Bool) (some_ : vetted? w target = some content) :
    headerRequests w target mapped = [.headers (sourceFor mapped content target)] ∧
      found? w target mapped =
        match w.headerParser.parse (sourceFor mapped content target) with
        | .found directories => some (content, directories)
        | _ => none := by
  rw [headerRequests, found?, some_]
  exact ⟨rfl, rfl⟩

/-- How opening ends goes by what is due. -/
structure Ends (w : World) (target : Target) (mapped : Bool) (r : Except Refusal (Ref .image))
    (v : World) : Prop where
  asks : Asks w (headerRequests w target mapped) v
  answers : Answers (found? w target mapped) v r

/-- Opening a target without a signature ends in a refusal, with nothing asked. -/
lemma ends_unvetted {refusal v} (none_ : vetted? w target = none) (asks : Asks w [] v) :
    Ends w target mapped (.error refusal) v := by
  obtain ⟨due, found⟩ := found?_of_unvetted mapped none_
  refine ⟨?_, .refused found⟩
  rw [due]
  exact asks

/-- Opening a target with a signature ends as the answer to the one request says. -/
lemma ends_vetted {r v} (some_ : vetted? w target = some content)
    (asks : Asks w [.headers (sourceFor mapped content target)] v)
    (answers : Answers (match w.headerParser.parse (sourceFor mapped content target) with
      | .found directories => some (content, directories)
      | _ => none) v r) : Ends w target mapped r v := by
  obtain ⟨due, found⟩ := found?_of_vetted mapped some_
  refine ⟨?_, found ▸ answers⟩
  rw [due]
  exact asks

/-- Viewing a file and letting go of it asks for nothing. -/
lemma asks_dropped (path : Path) :
    Asks w [] (dropped w (viewed w path mapped content) mapped content) := by
  have asks : Asks w [] (viewed w path mapped content) := by
    cases mapped <;> exact asks_nothing rfl rfl
  exact asks.trans (asks_released _ _ _)

/-- Viewing a file, parsing its headers and letting go of it asks for the headers. -/
lemma asks_parsed_dropped (path : Path) (source : HeaderSource) :
    Asks w [.headers source]
      (dropped w ((viewed w path mapped content).headersParsed source) mapped content) := by
  have asks : Asks w [.headers source] ((viewed w path mapped content).headersParsed source) := by
    cases mapped <;> exact asks_headers rfl rfl
  exact asks.trans (asks_released _ _ _)

/-- A path is opened with the calls that are due. -/
lemma ends_of_opens {text : String} {r v} (ops : Opens (.ofString text) mapped w r v) :
    Ends w (.path text) mapped r v := by
  have read {content} (rd : w.disk.read (.ofString text) = .ok content) :
      content? w.disk (.path text) = some content := by
    rw [content?, rd]
    rfl
  cases ops with
  | unreadable rd =>
    refine ends_unvetted ?_ (asks_nothing rfl rfl)
    rw [vetted?, content?, rd]
    rfl
  | empty rd =>
    have closed := asks_released (w.withHandle (.ofString text)) (.memory []) (some w.handles.next)
    exact ends_unvetted (unvetted (read rd) rfl) closed
  | unsigned rd _ plain =>
    exact ends_unvetted (unvetted (read rd) plain) (asks_dropped _)
  | raised rd signed answer =>
    refine ends_vetted (vetted (read rd) signed) (asks_parsed_dropped _ _) (.refused ?_)
    rw [sourceFor, answer]
  | rejected rd signed answer =>
    refine ends_vetted (vetted (read rd) signed) (asks_parsed_dropped _ _) (.refused ?_)
    rw [sourceFor, answer]
  | @found content directories recog =>
    obtain ⟨rd, signed, answer⟩ := recog
    have shows : Shows (opened w (.ofString text) mapped content directories) w.images.next content
        directories := by
      have bytes := Images.runs_content w.images.next
        (opened w (.ofString text) mapped content directories)
      refine ⟨?_, (bytes.unique (runs_content_opened rfl rfl)).1⟩
      rw [opened_get_image]
      exact ⟨_, _, rfl⟩
    refine ends_vetted (vetted (read rd) signed) ?_ (.opened ?_ shows)
    · cases mapped <;> exact asks_headers rfl rfl
    · rw [sourceFor, answer]

/-- A content is opened with the calls that are due. -/
lemma exists_openContent (w : World) (content : Bytes) (mapped : Bool) :
    ∃ r v, (openContent content).Runs w (.ok r) v ∧ Ends w (.content content) mapped r v := by
  cases signed : looksLikeImage content with
  | false =>
    rw [openContent, Opening.parse, signed]
    exact ⟨.error unsigned, w, .bind (Images.runs_release _ _ w) (runs_pure _ _),
      ends_unvetted (unvetted rfl signed) (asks_nothing rfl rfl)⟩
  | true =>
    have call := runs_parseHeaders (.memory content) w
    rw [openContent, Opening.parse, signed]
    cases answer : w.headerParser.parse (.memory content) with
    | rejected =>
      rw [answer] at call
      exact ⟨_, _, .bind call (.bind (Images.runs_release _ _ _) (runs_pure _ _)),
        ends_vetted (vetted rfl signed) (asks_headers rfl rfl)
          (.refused (by rw [sourceFor, answer]))⟩
    | raised text =>
      rw [answer] at call
      exact ⟨_, _, .bind call (.bind (Images.runs_release _ _ _) (runs_pure _ _)),
        ends_vetted (vetted rfl signed) (asks_headers rfl rfl)
          (.refused (by rw [sourceFor, answer]))⟩
    | found directories =>
      rw [answer] at call
      refine ⟨_, _, .bind call (.bind (runs_debug _ _) (.bind (runs_addImage _ _) (runs_pure _ _))),
        ends_vetted (vetted rfl signed) (asks_headers rfl rfl)
          (.opened (by rw [sourceFor, answer]) ?_)⟩
      have image := Arena.get_add_next w.images
        ⟨some "", .parsed (some directories) (.memory content) none⟩
      refine ⟨⟨.memory content, none, congrArg Image.body image⟩, ?_⟩
      exact congrArg (Images.contentOf w.mappings) image

/-- Opening a target ends with the calls that are due. -/
lemma exists_opening (w : World) (target : Target) (mapped : Bool) :
    ∃ r v, (openTarget target mapped).Runs w (.ok r) v ∧ Ends w target mapped r v := by
  cases target with
  | content bytes => exact exists_openContent w bytes mapped
  | path text =>
    obtain ⟨r, v, run, ops⟩ := exists_opens w text mapped
    exact ⟨r, v, run, ends_of_opens ops⟩

end Opening

/-! ## Loading -/

section Loading

variable {w v : World} {m : Ref .module} {i : Ref .image} {content : Bytes}
  {directories : DirectoryTable} {key : Option FileKey}

/-- Switching a type index on asks for nothing. -/
lemma asks_indexed (w : World) (m : Ref .module) : Asks w [] (indexed w m) := by
  rw [indexed]
  split
  · exact asks_of_others rfl rfl rfl (List.forall_mem_singleton.mpr rfl)
  · exact asks_nothing rfl rfl

/-- Wrapping a module asks for nothing, whatever it comes to. -/
lemma asks_of_wraps {extension symbols r} (wrs : Wraps extension m symbols key w r v) :
    Asks w [] v := by
  have asks := asks_indexed w m
  cases wrs with
  | nameless => exact asks
  | bare => exact asks
  | searched _ _ att | stopped _ _ att =>
    obtain ⟨log, found, rfl⟩ := att.normal
    exact asks

/-- Parsing a module out of an image asks for its metadata, whatever it comes to. -/
lemma asks_of_parses {context r} (prs : Parses i context content w r v) :
    Asks w [.metadata content] v := by
  have call : ∀ e ∈ [Event.metadataParsed content w.metadataParser.announced],
      e.concernsHeaders = false := List.forall_mem_singleton.mpr rfl
  cases prs with
  | raised => exact asks_of_others rfl rfl rfl call
  | complete => exact asks_of_others rfl rfl rfl call
  | incomplete =>
    refine asks_of_others (List.append_assoc _ _ _) rfl rfl ?_
    exact List.forall_mem_append.mpr ⟨call, List.forall_mem_singleton.mpr rfl⟩

/-- Making a file of what is no image asks for nothing. -/
lemma exists_unrecognized (w : World) (target : Target) (key : Option FileKey) :
    ∃ r v, (unrecognized target key).Runs w r v ∧ Asks w [] v := by
  have named := runs_ofExcept target.fileName w
  cases name : target.fileName with
  | error f =>
    rw [name] at named
    refine ⟨.error f, w, .bind_error ?_, asks_nothing rfl rfl⟩
    rw [name]
    exact named
  | ok path =>
    rw [name] at named
    refine ⟨.ok w.files.next, w.withFile (pathFile path key), .bind ?_ (.bind (runs_pure _ w)
      (runs_addFile _ w)), asks_nothing rfl rfl⟩
    rw [name]
    exact named

/-- Making a file of an image asks for nothing. -/
lemma exists_ofImage (w : World) (i : Ref .image) (key : Option FileKey) :
    ∃ r v, (Files.ofImage i key true).Runs w r v ∧ Asks w [] v :=
  ⟨_, _, .bind (runs_image i w) (.bind (runs_pure _ w) (runs_addFile _ w)), asks_nothing rfl rfl⟩

/-- The runtime directory that an image shows decides whether it is managed. -/
lemma runs_isManaged_shown (shows : Shows w i content directories) :
    (Images.isManaged i).Runs w (.ok directories.runtime.isManaged) w := by
  obtain ⟨view, handle, body⟩ := shows.body
  have entry : Images.entry directories runtimeDirectoryIndex = .ok directories.runtime := rfl
  have directory := runs_ofExcept (Images.entry directories runtimeDirectoryIndex) w
  rw [entry] at directory
  refine .bind (.bind (runs_image i w) ?_) (runs_pure _ w)
  rw [body]
  exact directory

/-- Classifying an image asks for what is due of its content and its directories. -/
lemma exists_classify {l : Loader} (standard : l.modules = .standard) (label : String)
    (symbols : Bool) (resolver : Option (Ref .resolver)) (key : Option FileKey)
    (shows : Shows w i content directories) :
    ∃ r v, (classify l label i symbols resolver key).Runs w r v ∧
      Asks w (imageRequests content directories) v := by
  have sign := runs_isManaged_shown shows
  rw [imageRequests]
  cases managed : directories.runtime.isManaged with
  | false =>
    rw [managed] at sign
    obtain ⟨r, v, run, asks⟩ := exists_ofImage (w.noted (label ++ ": native image")) i key
    exact ⟨r, v, .bind sign (.bind (runs_debug _ w) run), asks⟩
  | true =>
    rw [managed] at sign
    let ready := w.withContext (.around resolver)
    have bytes : (Images.content i).Runs ready (.ok content) ready :=
      shows.content ▸ Images.runs_content i ready
    obtain ⟨result, v, parse, prs⟩ := exists_parses (some w.contexts.next) bytes
    have asks : Asks ready [.metadata content] v := asks_of_parses prs
    change Asks w [.metadata content] v at asks
    have parse' := runs_parseModule standard parse
    cases result with
    | error refusal =>
      obtain ⟨r, u, run, rest⟩ := exists_ofImage (v.noted (label ++
        ": CLR header present but metadata unreadable (" ++ refusal.text ++ ")")) i key
      exact ⟨r, u, .bind sign (.bind (runs_addContext _ w) (.bind parse'
        (.bind (runs_debug _ v) run))), asks.trans rest⟩
    | ok m =>
      have named := runs_name v m
      cases known : moduleName v m with
      | error f =>
        rw [known] at named
        exact ⟨_, v, .bind sign (.bind (runs_addContext _ w) (.bind parse' (.bind_error named))),
          asks⟩
      | ok name =>
        rw [known] at named
        obtain ⟨r, u, run, wrs⟩ := exists_wraps l
          (v.noted (label ++ ": managed module " ++ Text.quoted name)) m symbols key
        have rest := asks_of_wraps wrs
        exact ⟨r, u, .bind sign (.bind (runs_addContext _ w) (.bind parse' (.bind named
          (.bind (runs_debug _ v) run)))), asks.trans rest⟩

/-- Loading a target asks for what is due, whatever it comes to. -/
lemma exists_fromTarget {l : Loader} (images : l.images = .standard) (modules : l.modules = .standard)
    (w : World) (target : Target) (mapped : Document.Value) (symbols : Bool)
    (resolver : Option (Ref .resolver)) (key : Option FileKey) :
    ∃ r v, (fromTarget l target mapped symbols resolver key).Runs w r v ∧
      Asks w (headerRequests w target mapped.isTruthy ++ metadataRequests w target mapped.isTruthy)
        v := by
  obtain ⟨result, v, opening, asks, answers⟩ := exists_opening w target mapped.isTruthy
  have open_ : (openImage l target mapped).Runs w (.ok result) v := by
    rw [openImage, images]
    exact opening
  rw [metadataRequests]
  cases answers with
  | @refused refusal none_ =>
    rw [none_]
    obtain ⟨r, u, run, rest⟩ := exists_unrecognized
      (v.noted (target.label ++ ": unrecognized (" ++ refusal.text ++ ")")) target key
    exact ⟨r, u, .bind open_ (.bind (runs_debug _ v) run), asks.trans rest⟩
  | @opened i content directories some_ shows =>
    rw [some_]
    obtain ⟨r, u, run, rest⟩ := exists_classify modules target.label symbols resolver key shows
    exact ⟨r, u, .bind open_ run, asks.trans rest⟩

end Loading

/-! ## Sessions -/

/-- A step of a session: a source is opened, or loaded with the standard parsers, or a module is
wrapped by any loader; in between, everything but the calls made so far and the state of the header
parser's log can become what it is in another world. -/
inductive Deed where
  | opens (source : ImageSource) (mapped : Bool)
  | loads (extension : Document.Value) (source : ImageSource) (mapped : Document.Value)
    (symbols : Bool) (resolver : Option (Ref .resolver)) (key : Option FileKey)
  | wraps (l : Loader) (m : Ref .module) (symbols : Bool) (resolver : Option (Ref .resolver))
    (key : Option FileKey)
  | meanwhile (v : World)

namespace Deed

/-- The world that a step leaves, whether or not it succeeds. -/
def perform (w : World) : Deed → World
  | .opens source mapped => ((openSource source mapped).outcome w).2
  | .loads extension source mapped symbols resolver key =>
    ((fromSource { symbolExtension := extension } source mapped symbols resolver key).outcome w).2
  | .wraps l m symbols resolver key => ((fromModule l m symbols resolver key).outcome w).2
  | .meanwhile v => { v with trace := w.trace, headerLogSilenced := w.headerLogSilenced }

/-- The requests that a step makes of the parsers. -/
def due (w : World) : Deed → List ParserRequest
  | .opens (.target target) mapped => headerRequests w target mapped
  | .loads _ (.target target) mapped _ _ _ =>
    headerRequests w target mapped.isTruthy ++ metadataRequests w target mapped.isTruthy
  | _ => []

end Deed

/-- The world after a session. -/
def after (w : World) (session : List Deed) : World :=
  session.foldl Deed.perform w

/-- The last step of a session starts from the world that the others leave. -/
lemma after_snoc (w : World) (session : List Deed) (deed : Deed) :
    after w (session ++ [deed]) = deed.perform (after w session) := by
  rw [after, List.foldl_append]
  rfl

/-- What is asked on the way of a run is asked on the way to its outcome. -/
lemma asks_outcome {α : Type} {action : Action α} {w v : World} {r requests}
    (run : action.Runs w r v) (asks : Asks w requests v) :
    Asks w requests (action.outcome w).2 := by
  rw [run]
  exact asks

/-- A step asks the parsers for what is due, in order. -/
lemma asks_deed (w : World) (deed : Deed) : Asks w (deed.due w) (deed.perform w) := by
  cases deed with
  | opens source mapped =>
    cases source with
    | other kind => exact asks_nothing rfl rfl
    | target target =>
      obtain ⟨r, v, run, asks, -⟩ := exists_opening w target mapped
      exact asks_outcome run asks
  | loads extension source mapped symbols resolver key =>
    cases source with
    | other kind => exact asks_nothing rfl rfl
    | target target =>
      obtain ⟨r, v, run, asks⟩ := exists_fromTarget (l := { symbolExtension := extension }) rfl rfl w
        target mapped symbols resolver key
      exact asks_outcome run asks
  | wraps l m symbols resolver key =>
    obtain ⟨r, v, run, wrs⟩ := exists_fromModule l w m symbols resolver key
    have asks := asks_of_wraps wrs
    exact asks_outcome run asks
  | meanwhile v => exact asks_nothing rfl rfl

/-- A session makes some requests, in order. -/
lemma asks_after (w : World) (session : List Deed) :
    ∃ requests, Asks w requests (after w session) := by
  induction session using List.reverseRecOn with
  | nil => exact ⟨[], asks_nothing rfl rfl⟩
  | append_singleton session last ih =>
    obtain ⟨requests, asks⟩ := ih
    rw [after_snoc]
    exact ⟨_, asks.trans (asks_deed (after w session) last)⟩

/-- In a session of steps with any outcomes, from a world in which the header parser's log is not
silent yet, each step asks the parsers for what is due at that point and for nothing else, and the
log is silenced once, right before headers are parsed for the first time, or never if they never
are. -/
theorem parsers_called_as_due {w : World} (loud : w.headerLogSilenced = false)
    (session : List Deed) :
    (∀ earlier deed later, session = earlier ++ deed :: later →
      ∃ events, (after w (earlier ++ [deed])).trace = (after w earlier).trace ++ events ∧
        events.filterMap Event.request? = deed.due (after w earlier)) ∧
      ∃ events, (after w session).trace = w.trace ++ events ∧ SilencedFirst events := by
  constructor
  · rintro earlier deed later rfl
    obtain ⟨events, trace, due, -⟩ := asks_deed (after w earlier) deed
    rw [after_snoc]
    exact ⟨events, trace, due⟩
  · obtain ⟨requests, events, trace, -, ord⟩ := asks_after w session
    rw [loud] at ord
    exact ⟨events, trace, ord.silencedFirst⟩

/-- In a world that only holds a module, a missing path asks for nothing, and loading the module asks
for its headers, under its path, and for its metadata, both times that it is loaded. -/
theorem parsers_called_as_due_module :
    let missing : Deed := .opens (.target (.path "Missing.dll")) true
    let load : Deed :=
      .loads (.text ".pdb") (.target (.path "/srv//Lib.dll")) (.bool true) true none none
    let w := moduleWorld "Lib.dll".toList
    let asked : List ParserRequest :=
      [.headers (.path "/srv/Lib.dll" smallImage), .metadata smallImage]
    (∃ events, (after w [missing]).trace = w.trace ++ events ∧
        events.filterMap Event.request? = []) ∧
      (∃ events, (after w [missing, load, load]).trace = (after w [missing, load]).trace ++ events ∧
        events.filterMap Event.request? = asked) ∧
      ∃ events, (after w [missing, load, load]).trace = w.trace ++ events ∧ SilencedFirst events := by
  intro missing load w asked
  obtain ⟨each, whole⟩ := parsers_called_as_due (w := w) rfl [missing, load, load]
  have none_ : missing.due w = [] := by decide +kernel
  have again : load.due (after w [missing, load]) = asked := by decide +kernel
  exact ⟨none_ ▸ each [] missing [load, load] rfl, again ▸ each [missing, load] load [] rfl, whole⟩

end Parsers

end PEInspect
