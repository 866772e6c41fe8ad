import TypedClient.Proofs.Watching
import TypedClient.Schema.Loading
import Mathlib.Data.List.Permutation

/-!
# Whether a document can be had

A source may name nothing, lead to no file, to one that cannot be read or to an address that does not
answer; what it leads to may be no document, or a document whose root is no object. Each of these is
`Origin.Refuses`, with the fault that says so. A fault may also escape the loading: `Origin.Escapes`. A text
that is nested too deeply and links that never end are no faults of a document, and a document that is
nothing but a link is looked at only when nothing is stepped over any more.

**What is proved.** `loading_settles`, for every linker with faults of its own: a source that is refused gives
the empty document and one failure, under every watcher, and a source with an object at its root gives what is
read from it. Loading goes through unless a fault escapes, which is left to the caller.
`brokenRootOrigin` has a root that cannot be looked at.

`Origin.linker_isForeign` says that the links of an origin are among those the theorem is about:
`Library.follow_fails` keeps the faults of following links apart from those of loading.
-/

namespace TypedClient

open Schema References

/-! ## The faults of links -/

namespace References

/-- What can go wrong where a link is followed. -/
inductive IsFollowingFault : Fault → Prop
  | broken : IsFollowingFault .brokenReference
  | endless : IsFollowingFault .endlessReference
  | address : IsFollowingFault .invalidAddress

theorem addressed_failsOnly {α : Type} (found : Option α) : FailsOnly IsFollowingFault (addressed found) := by
  cases found with
  | none => exact failsOnly_error .address
  | some a => exact failsOnly_ok a

theorem stepInto_failsOnly (v : Value) (step : String) : FailsOnly IsFollowingFault (stepInto v step) := by
  unfold stepInto
  dsimp only
  split
  · exact failsOnly_ok _
  · exact failsOnly_error .broken

theorem walk_failsOnly {inside : Value → Except Fault Value}
    (h : ∀ v, FailsOnly IsFollowingFault (inside v)) (v : Value) (steps : List String) :
    FailsOnly IsFollowingFault (walk inside v steps) := by
  induction steps generalizing v with
  | nil => exact failsOnly_ok v
  | cons step rest ih => exact (h v).bind fun v => (stepInto_failsOnly v step).bind ih

/-- A way of following links that fails as following does. -/
def Follow.Fails (follow : Follow) : Prop :=
  ∀ place target, FailsOnly IsFollowingFault (follow place target)

variable {follow : Follow}

theorem linkObject_failsOnly (h : follow.Fails) (place : Place) (fields : Fields Value) :
    FailsOnly IsFollowingFault (linkObject follow place fields) := by
  unfold linkObject
  split
  · exact failsOnly_ok _
  · refine (h _ _).bind fun v => ?_
    split <;> exact failsOnly_ok _
  · exact failsOnly_ok _

mutual
/-- Linking a document fails only where a link has to be followed for it. -/
theorem linked_failsOnly (h : follow.Fails) (document : String) (steps : List String) (v : Value) :
    FailsOnly IsFollowingFault (linked follow document steps v) := by
  cases v with
  | list vs =>
    rw [linked]
    exact (linkedItems_failsOnly h document steps 0 vs).map _
  | object fs =>
    rw [linked]
    exact (linkedFields_failsOnly h document steps fs).bind fun fs => linkObject_failsOnly h _ fs
  | _ => exact failsOnly_ok _
termination_by structural v
theorem linkedItems_failsOnly (h : follow.Fails) (document : String) (steps : List String) (n : Nat)
    (vs : List Value) : FailsOnly IsFollowingFault (linkedItems follow document steps n vs) := by
  cases vs with
  | nil => exact failsOnly_ok _
  | cons v rest =>
    rw [linkedItems]
    refine (linked_failsOnly h document _ v).bind fun v => ?_
    exact (linkedItems_failsOnly h document steps (n + 1) rest).bind fun _ => failsOnly_ok _
termination_by structural vs
theorem linkedField_failsOnly (h : follow.Fails) (document : String) (steps : List String)
    (f : String × Value) : FailsOnly IsFollowingFault (linkedField follow document steps f) := by
  obtain ⟨name, v⟩ := f
  rw [linkedField]
  exact (linked_failsOnly h document _ v).map _
termination_by structural f
theorem linkedFields_failsOnly (h : follow.Fails) (document : String) (steps : List String)
    (fs : List (String × Value)) : FailsOnly IsFollowingFault (linkedFields follow document steps fs) := by
  cases fs with
  | nil => exact failsOnly_ok _
  | cons f rest =>
    rw [linkedFields]
    refine (linkedField_failsOnly h document steps f).bind fun f => ?_
    exact (linkedFields_failsOnly h document steps rest).bind fun _ => failsOnly_ok _
termination_by structural fs
end

namespace Library

variable (library : Library)

theorem document_failsOnly {follow : List String → Follow} (h : ∀ around, (follow around).Fails)
    (around : List String) (address : String) :
    FailsOnly IsFollowingFault (library.document follow around address) := by
  unfold document
  refine (addressed_failsOnly _).bind fun spelling => ?_
  dsimp only
  split
  · exact failsOnly_error .broken
  · split
    · exact failsOnly_ok _
    · split
      · exact linked_failsOnly (h _) _ _ _
      · exact failsOnly_error .broken

/-- **Following a link** fails with a broken link, with links without an end, or with a text that is no
address. -/
theorem follow_fails (budget : Nat) (around : List String) :
    Follow.Fails (library.follow budget around) := by
  induction budget generalizing around with
  | zero => exact fun _ _ => failsOnly_error .endless
  | succ budget ih =>
    intro place target
    unfold follow
    refine (addressed_failsOnly _).bind fun target => (addressed_failsOnly _).bind fun split => ?_
    obtain ⟨address, pointer⟩ := split
    refine (library.document_failsOnly ih around _).bind fun root => ?_
    refine (walk_failsOnly (fun v => ?_) root _).bind fun v => ?_
    · split
      · split
        · exact failsOnly_ok _
        · exact ih around _ _
      · exact failsOnly_ok _
    · split
      · split
        · exact failsOnly_error .broken
        · exact ih around _ _
      · exact failsOnly_ok _

end Library

end References

namespace Schema

/-! ## The links of an origin -/

theorem link_failsOnly (o : Origin) (address : String) (content : Value) :
    FailsOnly IsFollowingFault (o.link address content) := by
  unfold Origin.link
  refine (addressed_failsOnly _).bind fun parts => (addressed_failsOnly _).bind fun spelling => ?_
  exact (linked_failsOnly (Library.follow_fails _ _ _) _ _ _).bind fun root => failsOnly_ok _

/-- The links of a document are those of a library. -/
theorem links_of_link {o : Origin} {address : String} {content : Value} {loaded : Loaded}
    (h : o.link address content = .ok loaded) : ∃ library : Library, loaded.links = library.links maxFollowed := by
  simp only [Origin.link, bind_eq_ok] at h
  obtain ⟨_, _, _, _, _, _, loaded⟩ := h
  cases loaded
  exact ⟨_, rfl⟩

theorem links_failsOnly (library : Library) (budget : Nat) (v : Value) :
    FailsOnly IsFollowingFault ((library.links budget).look v) := by
  cases v with
  | link place target fields => exact library.follow_fails budget [] place target
  | _ => exact failsOnly_ok _

/-- A linker fails with none of the faults of loading, which are this library's own, neither when it makes links
nor when they are looked at. -/
structure Linker.IsForeign (linker : Linker) : Prop where
  link : ∀ address content fault, linker.link address content = .error fault → isLoadingFault fault = false
  look : ∀ address content loaded, linker.link address content = .ok loaded →
    ∀ v fault, loaded.links.look v = .error fault → isLoadingFault fault = false

theorem isLoadingFault_of_following {fault : Fault} (h : IsFollowingFault fault) : isLoadingFault fault = false := by
  cases h <;> rfl

theorem Origin.linker_isForeign (o : Origin) : o.linker.IsForeign where
  link address content fault failed := isLoadingFault_of_following (link_failsOnly o address content fault failed)
  look address content loaded had v fault failed := by
    obtain ⟨library, links⟩ := links_of_link had
    rw [links] at failed
    exact isLoadingFault_of_following (links_failsOnly library maxFollowed v fault failed)

/-! ## Why there is no document -/

/-- A source gives no document, and the fault that says why. -/
inductive Origin.Refuses (o : Origin) (linker : Linker) (source : String) : Fault → Prop
  | noSource (empty : source = "") : o.Refuses linker source .noSource
  | noFile (named : source ≠ "") (here : isWebAddress source = false)
    (absent : o.files.exists? source = false) : o.Refuses linker source (.fileNotFound source)
  | unreadable (here : isWebAddress source = false) (present : o.files.exists? source = true)
    (cause : Fault) (refused : o.files.readText source = .error cause) :
    o.Refuses linker source .unreadableSchema
  | noReply (web : isWebAddress source = true) (silent : o.web.get? source = none) :
    o.Refuses linker source .unreadableSchema
  | badStatus (web : isWebAddress source = true) (reply : Reply) (got : o.web.get? source = some reply)
    (status : ¬ (200 ≤ reply.status ∧ reply.status < 300)) : o.Refuses linker source .unreadableSchema
  | notJson (text address : String) (had : o.read source = .ok (text, address))
    (fits : linker.fits text = true) (noDocument : Json.read? text = none) :
    o.Refuses linker source .unreadableSchema
  | notLinked (text address : String) (had : o.read source = .ok (text, address))
    (fits : linker.fits text = true) (content : Value) (document : Json.read? text = some content)
    (cause : Fault) (refused : linker.link address content = .error cause)
    (faulty : isDocumentFault cause = true) : o.Refuses linker source .unreadableSchema
  | rootNotObject (loaded : Loaded) (had : o.loadWith linker source = .ok loaded) (v : Value)
    (seen : loaded.links.look loaded.root = .ok v) (noObject : ∀ fields, v ≠ .object fields) :
    o.Refuses linker source (.rootNotObject source)

/-- A fault that nothing on the way to the document of a source steps over: its text is nested too deeply, its
links cannot be made for a fault that is not one of the document, as when they never end, or its root is a
link that cannot be followed. -/
inductive Origin.Escapes (o : Origin) (linker : Linker) (source : String) : Fault → Prop
  | tooDeep (text address : String) (had : o.read source = .ok (text, address))
    (deep : linker.fits text = false) : o.Escapes linker source .endlessReference
  | notLinked (text address : String) (had : o.read source = .ok (text, address))
    (fits : linker.fits text = true) (content : Value) (document : Json.read? text = some content)
    (fault : Fault) (failed : linker.link address content = .error fault)
    (other : isDocumentFault fault = false) : o.Escapes linker source fault
  | brokenRoot (loaded : Loaded) (had : o.loadWith linker source = .ok loaded) (fault : Fault)
    (unseen : loaded.links.look loaded.root = .error fault) : o.Escapes linker source fault

variable {o : Origin} {linker : Linker} {source : String}

/-- Nothing is to be had of a source that names nothing. -/
theorem read_empty (o : Origin) : o.read "" = .error (.fileNotFound "") := rfl

theorem ne_empty_of_read {found : String × String} (h : o.read source = .ok found) : source ≠ "" := by
  rintro rfl
  cases (read_empty o).symm.trans h

theorem ne_empty_of_load {loaded : Loaded} (h : o.loadWith linker source = .ok loaded) : source ≠ "" := by
  rintro rfl
  rw [Origin.loadWith, read_empty] at h
  cases h

/-! ## From the source to its text -/

@[simp] theorem attempt_ok {α : Type} (a : α) : attempt (.ok a) = .ok a := rfl

theorem attempt_faulty {α : Type} {cause : Fault} (faulty : isDocumentFault cause = true) :
    attempt (.error cause : Except Fault α) = .error .unreadableSchema := by
  simp only [attempt, Except.mapError, faulty, if_true]

theorem attempt_other {α : Type} {fault : Fault} (other : isDocumentFault fault = false) :
    attempt (.error fault : Except Fault α) = .error fault := by
  simp only [attempt, Except.mapError, other, Bool.false_eq_true, if_false]

/-- What the files refuse is a fault of the document. -/
theorem isDocumentFault_of_readText {files : Files.FileTree} {path : String} {cause : Fault}
    (refused : files.readText path = .error cause) : isDocumentFault cause = true := by
  have content (c : Files.Content) : FailsOnly (fun fault => isDocumentFault fault = true) c.text? := by
    unfold Files.Content.text?
    split
    · exact failsOnly_ok _
    · split
      · exact failsOnly_ok _
      · exact failsOnly_error rfl
  have file : FailsOnly (fun fault => isDocumentFault fault = true) (files.readText path) := by
    unfold Files.FileTree.readText
    split
    · exact failsOnly_error rfl
    · exact failsOnly_error rfl
    · exact (content _).bind fun _ => failsOnly_ok _
  exact file cause refused

theorem read_unreadable (here : isWebAddress source = false) (present : o.files.exists? source = true)
    {cause : Fault} (refused : o.files.readText source = .error cause) :
    o.read source = .error .unreadableSchema := by
  simp only [Origin.read, here, present, refused, attempt_faulty (isDocumentFault_of_readText refused)]
  rfl

/-- What is read of a source is found in it, or it is refused. -/
theorem read_cases (linker : Linker) (named : source ≠ "") : (∃ found, o.read source = .ok found) ∨
    ∃ fault, o.Refuses linker source fault ∧ o.read source = .error fault := by
  cases here : isWebAddress source with
  | true =>
    cases got : o.web.get? source with
    | none =>
      exact .inr ⟨_, .noReply here got, by simp [Origin.read, Origin.fetch, here, got]⟩
    | some reply =>
      by_cases status : 200 ≤ reply.status ∧ reply.status < 300
      · exact .inl ⟨_, by simp [Origin.read, Origin.fetch, here, got, status]; rfl⟩
      · exact .inr ⟨_, .badStatus here reply got status, by
          simp [Origin.read, Origin.fetch, here, got, status]⟩
  | false =>
    cases present : o.files.exists? source with
    | false => exact .inr ⟨_, .noFile named here present, by simp [Origin.read, here, present]; rfl⟩
    | true =>
      cases had : o.files.readText source with
      | error cause => exact .inr ⟨_, .unreadable here present cause had, read_unreadable here present had⟩
      | ok text => exact .inl ⟨_, by simp [Origin.read, here, present, had]; rfl⟩

/-! ## From the text to its document -/

theorem load_unread {fault : Fault} (h : o.read source = .error fault) :
    o.loadWith linker source = .error fault := by
  rw [Origin.loadWith, h]
  rfl

theorem load_tooDeep {text address : String} (had : o.read source = .ok (text, address))
    (deep : linker.fits text = false) : o.loadWith linker source = .error .endlessReference := by
  simp only [Origin.loadWith, had, ok_bind, deep]
  rfl

theorem load_notJson {text address : String} (had : o.read source = .ok (text, address))
    (fits : linker.fits text = true) (noDocument : Json.read? text = none) :
    o.loadWith linker source = .error .unreadableSchema := by
  simp only [Origin.loadWith, had, ok_bind, fits, noDocument]
  rfl

/-- A text that holds a document comes to what its linking comes to. -/
theorem load_eq_attempt {text address : String} {content : Value} (had : o.read source = .ok (text, address))
    (fits : linker.fits text = true) (document : Json.read? text = some content) :
    o.loadWith linker source = attempt (linker.link address content) := by
  simp only [Origin.loadWith, had, ok_bind, fits, document]
  rfl

theorem load_eq_ok {text address : String} {content : Value} {loaded : Loaded}
    (had : o.read source = .ok (text, address)) (fits : linker.fits text = true)
    (document : Json.read? text = some content) (linked : linker.link address content = .ok loaded) :
    o.loadWith linker source = .ok loaded := by
  rw [load_eq_attempt had fits document, linked]
  rfl

/-- A document that was loaded was made by the linker. -/
theorem link_of_load {loaded : Loaded} (h : o.loadWith linker source = .ok loaded) :
    ∃ address content, linker.link address content = .ok loaded := by
  obtain ⟨⟨text, address⟩, had, _⟩ := bind_eq_ok.mp h
  cases fits : linker.fits text with
  | false => cases (load_tooDeep had fits).symm.trans h
  | true =>
    cases document : Json.read? text with
    | none => cases (load_notJson had fits document).symm.trans h
    | some content =>
      rw [load_eq_attempt had fits document] at h
      cases linked : linker.link address content with
      | ok found =>
        rw [linked] at h
        cases h
        exact ⟨address, content, linked⟩
      | error fault =>
        rw [linked] at h
        cases h

/-- A source that names something is loaded, or it is refused, or a fault escapes. -/
theorem load_cases (o : Origin) (linker : Linker) (named : source ≠ "") :
    (∃ loaded, o.loadWith linker source = .ok loaded) ∨ (∃ fault, o.Refuses linker source fault) ∨
    ∃ fault, o.Escapes linker source fault := by
  rcases read_cases linker named with ⟨⟨text, address⟩, had⟩ | ⟨fault, refused, _⟩
  swap
  · exact .inr (.inl ⟨fault, refused⟩)
  cases fits : linker.fits text with
  | false => exact .inr (.inr ⟨_, .tooDeep text address had fits⟩)
  | true =>
    cases document : Json.read? text with
    | none => exact .inr (.inl ⟨_, .notJson text address had fits document⟩)
    | some content =>
      cases linked : linker.link address content with
      | ok loaded => exact .inl ⟨loaded, load_eq_ok had fits document linked⟩
      | error fault =>
        cases kind : isDocumentFault fault with
        | true => exact .inr (.inl ⟨_, .notLinked text address had fits content document fault linked kind⟩)
        | false => exact .inr (.inr ⟨_, .notLinked text address had fits content document fault linked kind⟩)

/-! ## From the document to its fields -/

theorem loadFields_eq (linker : Linker) (named : source ≠ "") :
    o.loadFieldsWith linker (.str source) = (do
      let loaded ← o.loadWith linker source
      match ← loaded.links.look loaded.root with
      | .object fields => return (loaded, fields)
      | _ => throw (.rootNotObject source)) := by
  have given : sourceText (.str source) = .ok source := by
    simp [sourceText, Value.truthy, named]
  rw [Origin.loadFieldsWith, given]
  rfl

theorem loadFields_unloaded {fault : Fault} (named : source ≠ "") (h : o.loadWith linker source = .error fault) :
    o.loadFieldsWith linker (.str source) = .error fault := by
  rw [loadFields_eq linker named, h]
  rfl

/-- A source that is refused is not loaded, for the fault that says why. -/
theorem loadFields_refused {fault : Fault} (h : o.Refuses linker source fault) :
    o.loadFieldsWith linker (.str source) = .error fault := by
  have onWeb : isWebAddress source = true → source ≠ "" := by
    rintro web rfl
    cases web
  cases h with
  | noSource empty => rw [empty]; rfl
  | noFile named here absent =>
    exact loadFields_unloaded named (load_unread (by simp [Origin.read, here, absent]; rfl))
  | unreadable here present cause refused =>
    have named : source ≠ "" := by rintro rfl; cases present
    exact loadFields_unloaded named (load_unread (read_unreadable here present refused))
  | noReply web silent =>
    exact loadFields_unloaded (onWeb web) (load_unread (by simp [Origin.read, Origin.fetch, web, silent]))
  | badStatus web reply got status =>
    exact loadFields_unloaded (onWeb web) (load_unread (by simp [Origin.read, Origin.fetch, web, got, status]))
  | notJson text address had fits noDocument =>
    exact loadFields_unloaded (ne_empty_of_read had) (load_notJson had fits noDocument)
  | notLinked text address had fits content document cause refused faulty =>
    refine loadFields_unloaded (ne_empty_of_read had) ?_
    rw [load_eq_attempt had fits document, refused, attempt_faulty faulty]
  | rootNotObject loaded had v seen noObject =>
    rw [loadFields_eq linker (ne_empty_of_load had), had, ok_bind, seen, ok_bind]
    cases v with
    | object fields => exact absurd rfl (noObject fields)
    | _ => rfl

/-- A fault that escapes is that of loading the fields. -/
theorem loadFields_escaped {fault : Fault} (h : o.Escapes linker source fault) :
    o.loadFieldsWith linker (.str source) = .error fault := by
  cases h with
  | tooDeep text address had deep =>
    exact loadFields_unloaded (ne_empty_of_read had) (load_tooDeep had deep)
  | notLinked text address had fits content document _ failed other =>
    refine loadFields_unloaded (ne_empty_of_read had) ?_
    rw [load_eq_attempt had fits document, failed, attempt_other other]
  | brokenRoot loaded had _ unseen =>
    rw [loadFields_eq linker (ne_empty_of_load had), had, ok_bind, unseen]
    rfl

theorem loadFields_read {loaded : Loaded} {fields : Fields Value} (had : o.loadWith linker source = .ok loaded)
    (root : loaded.links.look loaded.root = .ok (.object fields)) :
    o.loadFieldsWith linker (.str source) = .ok (loaded, fields) := by
  rw [loadFields_eq linker (ne_empty_of_load had), had, ok_bind, root]
  rfl

/-- **What comes of a source**: it is refused, or it is loaded and its root can be looked at and is an
object, or a fault escapes. -/
theorem loadFields_cases (o : Origin) (linker : Linker) (source : String) :
    (∃ fault, o.Refuses linker source fault) ∨
    (∃ loaded fields, o.loadWith linker source = .ok loaded ∧
      loaded.links.look loaded.root = .ok (.object fields)) ∨
    ∃ fault, o.Escapes linker source fault := by
  by_cases named : source = ""
  · exact .inl ⟨_, .noSource named⟩
  rcases load_cases o linker named with ⟨loaded, had⟩ | refused | escaped
  · cases seen : loaded.links.look loaded.root with
    | error fault => exact .inr (.inr ⟨fault, .brokenRoot loaded had fault seen⟩)
    | ok v =>
      by_cases object : ∃ fields, v = .object fields
      · obtain ⟨fields, rfl⟩ := object
        exact .inr (.inl ⟨loaded, fields, had, seen⟩)
      · exact .inl ⟨_, .rootNotObject loaded had v seen fun fields h => object ⟨fields, h⟩⟩
  · exact .inl refused
  · exact .inr (.inr escaped)

theorem isLoadingFault_of_refuses {fault : Fault} (h : o.Refuses linker source fault) :
    isLoadingFault fault = true := by
  cases h <;> rfl

/-- What escapes is none of the faults that loading steps over. -/
theorem isLoadingFault_of_escapes (foreign : linker.IsForeign) {fault : Fault}
    (h : o.Escapes linker source fault) : isLoadingFault fault = false := by
  cases h with
  | tooDeep => rfl
  | notLinked text address had fits content document _ failed other =>
    exact foreign.link address content fault failed
  | brokenRoot loaded had _ unseen =>
    obtain ⟨address, content, linked⟩ := link_of_load had
    exact foreign.look address content loaded linked loaded.root fault unseen

end Schema

/-! ## Loading under a watcher -/

section

variable {σ : Type} {o : Origin}

/-- The document that a setting names. A fault of loading is told of and an empty document takes the place
of what could not be had; any other fault is left to the caller. -/
def Watcher.load (w : Watcher σ) (o : Origin) (linker : Linker) (setting : Value) : Watched σ Document :=
  match o.loadFieldsWith linker setting with
  | .ok (loaded, _) => w.read loaded.links loaded.root
  | .error fault => do
    if isLoadingFault fault then
      w.tell fault
      return {}
    throw fault

/-- **Loading under a watcher**: the document is the one that is loaded without, and the watcher has been
told of its failures. -/
theorem Watcher.follows_load (w : Watcher σ) {linker : Linker} {setting : Value} {outcome : Outcome}
    (h : o.schemaWith linker setting = .ok outcome) :
    w.Follows (w.load o linker setting) outcome.document (failures outcome.events) := by
  unfold Origin.schemaWith at h
  unfold Watcher.load
  cases had : o.loadFieldsWith linker setting with
  | ok found =>
    obtain ⟨loaded, fields⟩ := found
    rw [had] at h
    cases h
    exact w.follows_read loaded.links loaded.root
  | error fault =>
    rw [had] at h
    dsimp only at h
    split at h
    · next loading =>
      cases h
      simp only [loading, if_true]
      exact (follows_tell fault).map _
    · cases h

end

namespace Schema

/-! ## What comes of loading -/

variable {o : Origin} {linker : Linker} {source : String}

/-- A source that is refused gives the empty document and one failure. -/
theorem schema_refused {fault : Fault} (h : o.Refuses linker source fault) :
    o.schemaWith linker (.str source) =
      .ok { events := [.notice (.documentNotLoaded fault), .failure fault] } := by
  rw [Origin.schemaWith, loadFields_refused h]
  simp only [isLoadingFault_of_refuses h, if_true]

/-- A source with an object at its root gives what is read from it. -/
theorem schema_read {loaded : Loaded} {fields : Fields Value} (had : o.loadWith linker source = .ok loaded)
    (root : loaded.links.look loaded.root = .ok (.object fields)) :
    o.schemaWith linker (.str source) = .ok {
      document := (Document.read loaded.links loaded.root).1
      links := loaded.links
      events := (Document.read loaded.links loaded.root).2 } := by
  rw [Origin.schemaWith, loadFields_read had root]

/-- A fault that escapes is left to the caller. -/
theorem schema_escaped (foreign : linker.IsForeign) {fault : Fault} (h : o.Escapes linker source fault) :
    o.schemaWith linker (.str source) = .error fault := by
  rw [Origin.schemaWith, loadFields_escaped h]
  simp only [isLoadingFault_of_escapes foreign h, Bool.false_eq_true, if_false]

/-- **Loading goes through unless a fault escapes**, and then that fault is left to the caller. What is refused
gives the empty document and one failure, anything else what is read from it, and so it does under every
watcher, which has been told of the failures. -/
theorem loading_settles (o : Origin) (linker : Linker) (foreign : linker.IsForeign) (source : String) :
    ((∃ outcome, o.schemaWith linker (.str source) = .ok outcome) ↔
      ¬ ∃ fault, o.Escapes linker source fault) ∧
    (∀ fault, o.Escapes linker source fault → o.schemaWith linker (.str source) = .error fault) ∧
    (∀ fault, o.Refuses linker source fault → ∃ outcome, o.schemaWith linker (.str source) = .ok outcome ∧
      outcome.document = {} ∧ failures outcome.events = [fault]) ∧
    (∀ loaded fields, o.loadWith linker source = .ok loaded →
      loaded.links.look loaded.root = .ok (.object fields) →
      ∃ outcome, o.schemaWith linker (.str source) = .ok outcome ∧
        (outcome.document, outcome.events) = Document.read loaded.links loaded.root) ∧
    ∀ outcome, o.schemaWith linker (.str source) = .ok outcome → ∀ (σ : Type) (w : Watcher σ) (s : σ),
      (w.load o linker (.str source)).run.run s =
        (.ok outcome.document, w.after s (failures outcome.events)) := by
  refine ⟨⟨?_, fun kept => ?_⟩, ?_, ?_, ?_, ?_⟩
  · rintro ⟨outcome, h⟩ ⟨fault, escaped⟩
    exact nomatch h.symm.trans (schema_escaped foreign escaped)
  · rcases loadFields_cases o linker source with ⟨fault, refused⟩ | ⟨loaded, fields, had, root⟩ | escaped
    · exact ⟨_, schema_refused refused⟩
    · exact ⟨_, schema_read had root⟩
    · exact absurd escaped kept
  · exact fun fault escaped => schema_escaped foreign escaped
  · exact fun fault refused => ⟨_, schema_refused refused, rfl, rfl⟩
  · exact fun loaded fields had root => ⟨_, schema_read had root, rfl⟩
  · exact fun outcome h σ w s => w.follows_load h s

/-- A document at an address without a fragment is linked to itself. -/
theorem link_eq_ok {address document spelling : String} {content root : Value}
    (whole : Uri.splitFragment? address = some (document, []))
    (spells : Uri.spelling? document = some spelling)
    (linked : linked (({ content? := o.content? } : Library).follow maxFollowed [spelling]) document [] content =
      .ok root) :
    o.link address content =
      .ok ⟨root, ({ content? := o.content?, first? := some ⟨document, root⟩ } : Library).links maxFollowed⟩ := by
  rw [Origin.link, whole]
  simp only [addressed, ok_bind, spells, linked]
  rfl

/-- A file whose document is a link to something that it does not have. -/
def brokenRootOrigin : Origin where
  files := ⟨[(["api.json"], .file (.text "\x7b\"$ref\": \"#/missing\"\x7d"))]⟩
  directory := "/work"

/-- Its root cannot be looked at. -/
theorem escapes_brokenRoot : brokenRootOrigin.Escapes brokenRootOrigin.linker "api.json" .brokenReference := by
  have had : brokenRootOrigin.read "api.json" =
      .ok ("\x7b\"$ref\": \"#/missing\"\x7d", "file:///work/api.json") :=
    toOption_eq_some.mp (by decide +kernel)
  have document : Json.read? "\x7b\"$ref\": \"#/missing\"\x7d" =
      some (.object [("$ref", .str "#/missing")]) := by cbv
  have whole : Uri.splitFragment? "file:///work/api.json" = some ("file:///work/api.json", []) := by
    decide +kernel
  have spells : Uri.spelling? "file:///work/api.json" = some "file:///work/api.json" := by decide +kernel
  have linked : brokenRootOrigin.linker.link "file:///work/api.json" (.object [("$ref", .str "#/missing")]) = _ :=
    link_eq_ok whole spells rfl
  refine .brokenRoot _ (load_eq_ok had rfl document linked) .brokenReference ?_
  have resolved : Uri.resolve? "file:///work/api.json" "#/missing" = some "file:///work/api.json#/missing" := by
    decide +kernel
  have parts : Uri.splitFragment? "file:///work/api.json#/missing" =
      some ("file:///work/api.json", "/missing".toList) := by decide +kernel
  have steps : pointerSteps "/missing".toList = ["missing"] := by decide +kernel
  show Library.follow _ (164 + 1) [] ⟨"file:///work/api.json", []⟩ "#/missing" = _
  rw [Library.follow]
  simp only [addressed, resolved, ok_bind, parts, steps, Library.document, spells, if_true,
    Option.filter_some, decide_true]
  rfl

/-- Such a root gives its fault, and where there is no source there is the empty document and one failure. -/
theorem loading_settles_brokenRoot : brokenRootOrigin.linker.IsForeign ∧
    brokenRootOrigin.schema (.str "api.json") = .error .brokenReference ∧
    ∃ outcome, brokenRootOrigin.schema (.str "") = .ok outcome ∧ outcome.document = {} ∧
      failures outcome.events = [.noSource] := by
  have foreign := brokenRootOrigin.linker_isForeign
  obtain ⟨_, escaped, _⟩ := loading_settles brokenRootOrigin _ foreign "api.json"
  obtain ⟨_, _, refused, _⟩ := loading_settles brokenRootOrigin _ foreign ""
  exact ⟨foreign, escaped _ escapes_brokenRoot, refused _ (.noSource rfl)⟩

/-- Every source can be loaded. -/
def EverySourceLoads (o : Origin) : Prop := ∀ source, ∃ outcome, o.schema (.str source) = .ok outcome

/-- Not every source can be loaded: the fault of a root that cannot be followed is not stepped over. -/
theorem not_everySourceLoads : ¬ EverySourceLoads brokenRootOrigin := by
  intro h
  obtain ⟨outcome, found⟩ := h "api.json"
  exact nomatch found.symm.trans (schema_escaped brokenRootOrigin.linker_isForeign escapes_brokenRoot)

end Schema

end TypedClient
