import PEInspect.Proofs.World.Effects

/-!
# Opening inversion

The relation `Opens` lists the ways in which opening a path can end: the file cannot be read, an
empty file is to be mapped, the signature is missing, the header parser fails or sees no image, or
an image is made. Each way comes with what it needs and with the world that it leaves. Opening runs
in one of these ways (`exists_opens`), and nothing but the header parser's answer and the disk
decides which.
-/

namespace PEInspect.Opening

open PEInspect.Action

/-- Where the bytes of a file are once it is opened in a world: in a new map, or in memory. -/
def viewIn (w : World) (mapped : Bool) (content : Bytes) : View :=
  if mapped then .mapped w.mappings.next else .memory content

/-- The handle below a view; only maps have one. -/
def handleIn (w : World) (mapped : Bool) : Option (Ref .handle) :=
  if mapped then some w.handles.next else none

/-- What the header parser is given. -/
def sourceOf (path : Path) (mapped : Bool) (content : Bytes) : HeaderSource :=
  if mapped then .path path.toString content else .memory content

/-- The world in which a file has been mapped or read. -/
def viewed (w : World) (path : Path) (mapped : Bool) (content : Bytes) : World :=
  if mapped then (w.withHandle path).withMapping path content else w

/-- The world after letting go of what was opened. -/
def dropped (w v : World) (mapped : Bool) (content : Bytes) : World :=
  v.released (viewIn w mapped content) (handleIn w mapped)

/-- The image that opening a path makes. -/
def imageIn (w : World) (path : Path) (mapped : Bool) (content : Bytes)
    (directories : DirectoryTable) : Image :=
  ⟨some path.toString, .parsed (some directories) (viewIn w mapped content) (handleIn w mapped)⟩

/-- A file can be read, has the signature of an image, and the header parser finds directories. -/
structure Recognized (w : World) (path : Path) (mapped : Bool) (content : Bytes)
    (directories : DirectoryTable) : Prop where
  read : w.disk.read path = .ok content
  signed : looksLikeImage content = true
  answer : w.headerParser.parse (sourceOf path mapped content) = .found directories

/-- The world in which a file has become an image. -/
def opened (w : World) (path : Path) (mapped : Bool) (content : Bytes)
    (directories : DirectoryTable) : World :=
  (((viewed w path mapped content).headersParsed (sourceOf path mapped content)).noted
    (openedText path.toString content.length)).withImage (imageIn w path mapped content directories)

/-- The ways in which opening a path can end. -/
inductive Opens (path : Path) (mapped : Bool) (w : World) :
    Except Refusal (Ref .image) → World → Prop where
  | unreadable {f} :
    w.disk.read path = .error f →
    Opens path mapped w (.error (unreadable path f)) w
  | empty :
    w.disk.read path = .ok [] →
    mapped = true →
    Opens path mapped w (.error (unreadable path .emptyMap))
      ((w.withHandle path).closedHandle w.handles.next)
  | unsigned {content} :
    w.disk.read path = .ok content →
    (mapped = true → content ≠ []) →
    looksLikeImage content = false →
    Opens path mapped w (.error unsigned) (dropped w (viewed w path mapped content) mapped content)
  | raised {content text} :
    w.disk.read path = .ok content →
    looksLikeImage content = true →
    w.headerParser.parse (sourceOf path mapped content) = .raised text →
    Opens path mapped w (.error (unparsed (some (.raised text))))
      (dropped w ((viewed w path mapped content).headersParsed (sourceOf path mapped content))
        mapped content)
  | rejected {content} :
    w.disk.read path = .ok content →
    looksLikeImage content = true →
    w.headerParser.parse (sourceOf path mapped content) = .rejected →
    Opens path mapped w (.error (unparsed none))
      (dropped w ((viewed w path mapped content).headersParsed (sourceOf path mapped content))
        mapped content)
  | found {content directories} :
    Recognized w path mapped content directories →
    Opens path mapped w (.ok w.images.next) (opened w path mapped content directories)

section Parse

variable {w : World} {path : Path} {mapped : Bool} {content : Bytes}

/-- What a view of a file is parsed by depends on its handle. -/
lemma sourceOf_eq (w : World) (path : Path) (mapped : Bool) (content : Bytes) :
    (if (handleIn w mapped).isSome then HeaderSource.path path.toString content
      else .memory content) = sourceOf path mapped content := by
  cases mapped <;> rfl

/-- A file without a signature is let go. -/
lemma runs_parse_unsigned (v : World) (plain : looksLikeImage content = false) :
    (parse path.toString content (viewIn w mapped content) (handleIn w mapped)).Runs v
      (.ok (.error unsigned)) (dropped w v mapped content) := by
  rw [parse, plain]
  exact .bind (Images.runs_release _ _ v) (runs_pure _ _)

/-- A content for which the header parser raises is refused. -/
lemma runs_parse_raised {v : World} {text} (signed : looksLikeImage content = true)
    (answer : v.headerParser.parse (sourceOf path mapped content) = .raised text) :
    (parse path.toString content (viewIn w mapped content) (handleIn w mapped)).Runs v
      (.ok (.error (unparsed (some (.raised text)))))
      (dropped w (v.headersParsed (sourceOf path mapped content)) mapped content) := by
  rw [parse, signed, sourceOf_eq]
  refine .bind (runs_parseHeaders _ v) ?_
  rw [answer]
  exact .bind (Images.runs_release _ _ _) (runs_pure _ _)

/-- A content in which the header parser sees no image is refused. -/
lemma runs_parse_rejected {v : World} (signed : looksLikeImage content = true)
    (answer : v.headerParser.parse (sourceOf path mapped content) = .rejected) :
    (parse path.toString content (viewIn w mapped content) (handleIn w mapped)).Runs v
      (.ok (.error (unparsed none)))
      (dropped w (v.headersParsed (sourceOf path mapped content)) mapped content) := by
  rw [parse, signed, sourceOf_eq]
  refine .bind (runs_parseHeaders _ v) ?_
  rw [answer]
  exact .bind (Images.runs_release _ _ _) (runs_pure _ _)

/-- A file in which the header parser finds directories becomes an image. -/
lemma runs_parse_found {v : World} {directories} (signed : looksLikeImage content = true)
    (answer : v.headerParser.parse (sourceOf path mapped content) = .found directories) :
    (parse path.toString content (viewIn w mapped content) (handleIn w mapped)).Runs v
      (.ok (.ok v.images.next))
      (((v.headersParsed (sourceOf path mapped content)).noted
        (openedText path.toString content.length)).withImage
          (imageIn w path mapped content directories)) := by
  rw [parse, signed, sourceOf_eq]
  refine .bind (runs_parseHeaders _ v) ?_
  rw [answer]
  exact .bind (runs_debug _ _) (.bind (runs_addImage _ _) (runs_pure _ _))

end Parse

/-- A path is opened by viewing its file and parsing what is in view. -/
lemma runs_openTarget {w : World} {text mapped content r v}
    (rd : w.disk.read (.ofString text) = .ok content) (full : mapped = true → content ≠ [])
    (run : (parse (Path.ofString text).toString content (viewIn w mapped content)
      (handleIn w mapped)).Runs (viewed w (.ofString text) mapped content) r v) :
    (openTarget (.path text) mapped).Runs w r v := by
  cases mapped with
  | false =>
    refine .bind (runs_get w) ?_
    rw [rd]
    exact run
  | true =>
    refine .bind (runs_get w) ?_
    rw [rd]
    refine .bind (runs_addHandle _ w) ?_
    cases content with
    | nil => exact absurd rfl (full rfl)
    | cons b rest => exact .bind (runs_addMapping _ _ _) run

/-- Opening a path ends in one of the ways that are listed. -/
lemma exists_opens (w : World) (text : String) (mapped : Bool) :
    ∃ r v, (openTarget (.path text) mapped).Runs w (.ok r) v ∧
      Opens (.ofString text) mapped w r v := by
  cases rd : w.disk.read (.ofString text) with
  | error f =>
    refine ⟨_, _, ?_, .unreadable rd⟩
    cases mapped <;>
    · refine .bind (runs_get w) ?_
      rw [rd]
      exact runs_pure _ _
  | ok content =>
    by_cases blank : mapped = true ∧ content = []
    · obtain ⟨rfl, rfl⟩ := blank
      refine ⟨_, _, ?_, .empty rd rfl⟩
      refine .bind (runs_get w) ?_
      rw [rd]
      exact .bind (runs_addHandle _ w) (.bind (Images.runs_closeHandle _ _) (runs_pure _ _))
    · have full : mapped = true → content ≠ [] := fun m e => blank ⟨m, e⟩
      have parser : (viewed w (.ofString text) mapped content).headerParser = w.headerParser := by
        cases mapped <;> rfl
      cases signed : looksLikeImage content with
      | false =>
        exact ⟨_, _, runs_openTarget rd full (runs_parse_unsigned _ signed), .unsigned rd full signed⟩
      | true =>
        cases answer : w.headerParser.parse (sourceOf (.ofString text) mapped content) with
        | rejected =>
          exact ⟨_, _, runs_openTarget rd full (runs_parse_rejected signed (by rw [parser, answer])),
            .rejected rd signed answer⟩
        | raised cause =>
          exact ⟨_, _, runs_openTarget rd full (runs_parse_raised signed (by rw [parser, answer])),
            .raised rd signed answer⟩
        | found directories =>
          have images : (viewed w (.ofString text) mapped content).images = w.images := by
            cases mapped <;> rfl
          have run := runs_openTarget rd full (runs_parse_found signed (by rw [parser, answer]))
          rw [images] at run
          exact ⟨_, _, run, .found ⟨rd, signed, answer⟩⟩

end PEInspect.Opening
