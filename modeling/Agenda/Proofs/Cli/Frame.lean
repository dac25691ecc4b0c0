import Agenda.Proofs.Storage.Frame
import Agenda.Proofs.Store.Atomicity
import Agenda.Proofs.Store.Lookup

/-!
# What commands leave as it was

A command that only looks leaves the list of tasks and the whole disk as they were, and so does
one that is refused: because of its arguments, because no task or more than one is designated, or
because a question was not answered.  An export changes the file to which its path leads and the
command for themes that of the theme.  What the checks are there to exclude does not occur: a
title is never found empty, and a task that was designated is never missing.

Commands that change the list end in one of two ways, which `Ends` states: nothing has changed,
and an error is among those with which the command may be refused, or at most the storage has
failed.
-/

namespace Agenda

open Storage (Disk)
open Store.Backend (folderStorage)

/-! ### Sessions in a folder -/

/-- The outside whose local time is told from the universal time by the zone, and in which every
question gets the reply. -/
def World.systemWith (zone : Calendar.Time → Calendar.Time)
    (reply : String → Except String Bool) : System (StateM World) :=
  { World.system with
    localNow := zone <$> World.system.now
    confirm := fun question => pure (reply question) }

namespace Cli

/-- What a session in a folder of a world consists of. -/
structure FolderSession where
  folder : String
  config : Config
  store : Store
  zone : Calendar.Time → Calendar.Time
  reply : String → Except String Bool

namespace FolderSession

/-- The session, whose storage is the folder. -/
def session (s : FolderSession) : Session (StateM World) where
  system := World.systemWith s.zone s.reply
  storage := folderStorage s.folder
  config := s.config
  store := s.store

/-- The question whether the list is to be cleared. -/
def clearQuestion (s : FolderSession) : String :=
  "Clear all " ++ toString s.store.tasks.length ++ " tasks?"

/-- The path to which the tasks or the report are written. -/
def exportPath (s : FolderSession) (kind : ExportKind) (output : Option String) : String :=
  output.getD (match kind with
    | .csv => s.config.csvFile
    | .report => s.config.reportFile)

/-- The list of tasks and the disk are as before. -/
def Keeps (s : FolderSession) (w : World) (result : Outcome × World) : Prop :=
  result.1.2 = s.store ∧ result.2.disk = w.disk

/-- Nothing has changed, and there is no error but those that are admitted, or the storage may
have failed to write the list. -/
def Ends (s : FolderSession) (w : World) (admitted : Error → Prop) (result : Outcome × World) :
    Prop :=
  (s.Keeps w result ∧ ∀ e, result.1.1 = .error e → admitted e)
    ∨ ∀ e, result.1.1 = .error e → ∃ fault, e = .store (.storage fault)

end FolderSession

/-- The session that the program starts is one in the folder, where nobody answers. -/
theorem Session.eq_session_of_start {folder : String} {w w' : World} {s : Session (StateM World)}
    (h : Session.start World.system folder w = (.ok s, w')) :
  s = FolderSession.session ⟨folder, s.config, s.store, id,
    fun _ => .error "The input device is not a TTY"⟩
  := by
  have hstorage : Storage.inFolder World.system.files World.system.fresh folder
      = folderStorage folder := rfl
  rw [Session.start, Store.Backend.bind_apply, hstorage] at h
  rcases hconfig : Config.load World.system.files World.system.fresh folder w with ⟨_ | config, w₁⟩
  · rw [hconfig] at h
    cases h
  · simp only [hconfig, Store.Backend.bind_apply] at h
    rcases hfolders : World.system.files.makeFolders folder w₁ with ⟨_ | _, w₂⟩
    · rw [hfolders] at h
      cases h
    · simp only [hfolders, Store.Backend.bind_apply] at h
      rcases hload : Store.load (folderStorage folder) config.storeOptions w₂ with ⟨_ | store, w₃⟩
      · rw [hload] at h
        cases h
      · rw [hload] at h
        cases h
        rfl

/-! ### Checks -/

/-- An argument is not accepted. -/
def Error.IsInvalid (e : Error) : Prop :=
  ∃ field reason, e = .invalid field reason

/-- A check fails only because an argument is not accepted. -/
def IsCheck (check : Except Error Unit) : Prop :=
  ∀ e, check = .error e → e.IsInvalid

theorem require_eq_ok_iff {condition : Bool} {field reason : String} :
  require condition field reason = .ok () ↔ condition = true
  := by
  rw [require]
  split
  · next h => simp [h]
  · next h => simp [h]

theorem isCheck_require (condition : Bool) (field reason : String) :
  IsCheck (require condition field reason)
  := by
  intro e h
  rw [require] at h
  split at h
  · cases h
  · exact ⟨field, reason, (Except.error.inj h).symm⟩

theorem IsCheck.bind {check later : Except Error Unit} (h : IsCheck check) (hlater : IsCheck later) :
  IsCheck (check >>= fun _ => later)
  := by
  intro e he
  cases check with
  | error e' =>
    obtain rfl := Except.error.inj he
    apply h e' rfl
  | ok _ => apply hlater e he

theorem isCheck_checkGiven {check : String → Except Error Unit} (h : ∀ value, IsCheck (check value))
    (value : Option String) :
  IsCheck (checkGiven check value)
  := by
  cases value with
  | none => exact fun e he => by cases he
  | some value => apply h

theorem isCheck_checkTitle (title : String) :
  IsCheck (checkTitle title)
  := (isCheck_require _ _ _).bind (isCheck_require _ _ _)

theorem isCheck_checkId (id : String) :
  IsCheck (checkId id)
  := (isCheck_require _ _ _).bind (isCheck_require _ _ _)

/-- A text that is required not to be blank is not. -/
theorem trim_ne_of_require {text field reason : String}
    (h : require (!isBlankText text) field reason = .ok ()) :
  Text.trim text ≠ ""
  := by
  simpa [isBlankText] using require_eq_ok_iff.mp h

/-- A title that is accepted is not blank. -/
theorem trim_ne_of_checkTitle {title : String} (h : checkTitle title = .ok ()) :
  Text.trim title ≠ ""
  := by
  obtain ⟨_, hblank, -⟩ := bind_eq_ok_iff.mp h
  apply trim_ne_of_require hblank

/-! ### Commands that change the list -/

namespace FolderSession

variable {s : FolderSession} {w w' : World} {admitted : Error → Prop}

theorem keeps_fails (s : FolderSession) (w : World) (e : Error) :
  s.Keeps w (s.session.fails e, w)
  := ⟨rfl, rfl⟩

/-- A command that fails before it does anything ends as it may. -/
theorem ends_fails (s : FolderSession) (w : World) {e : Error} (h : admitted e) :
  s.Ends w admitted (s.session.fails e, w)
  := by
  left
  refine ⟨s.keeps_fails w e, ?_⟩
  intro e' he
  rw [← Except.error.inj he]
  exact h

/-- A command with a check ends as it does without it, or with the error of the check. -/
theorem ends_checked {check : Except Error Unit} {continued : StateM World Outcome}
    (hcheck : ∀ e, check = .error e → admitted e)
    (h : check = .ok () → s.Ends w admitted (continued w)) :
  s.Ends w admitted (s.session.checked check continued w)
  := by
  cases check with
  | error e => apply s.ends_fails w (hcheck e rfl)
  | ok _ => apply h rfl

/-- An action that applies a change is refused with an error that is admitted, or the change is
made and perhaps not written. -/
theorem ends_shown {α : Type} {act : StateM World (Except Store.Error α × Store)}
    {change : Store.Change α}
    (hact : (Store.Backend.inFolder s.folder).Applies s.store act change w w')
    (h : ∀ e, change s.store.tasks = .error e → admitted (.store e)) (text : α → List String) :
  s.Ends w admitted ((do return shown text (← act) : StateM World Outcome) w)
  := by
  have hshown : (do return shown text (← act) : StateM World Outcome) w
      = (shown text (act w).1, (act w).2) := rfl
  obtain ⟨e, hchange, hrun⟩ | ⟨answer, tasks, -, ⟨w'', -, hrun⟩ | ⟨fault, w'', -, hrun⟩⟩ :=
    hact.cases
  · have hrun : act w = ((.error e, s.store), w) := hrun
    left
    rw [hshown, hrun]
    refine ⟨⟨rfl, rfl⟩, ?_⟩
    intro e' he
    rw [← Except.error.inj he]
    apply h e hchange
  · have hrun : act w = ((.ok answer, { s.store with tasks }), w'') := hrun
    right
    rw [hshown, hrun]
    intro e he
    cases he
  · have hrun : act w = ((.error (.storage fault), { s.store with tasks }), w'') := hrun
    right
    rw [hshown, hrun]
    intro e he
    exact ⟨fault, (Except.error.inj he).symm⟩

theorem ends_add (title : String) (category due : Option String) :
  s.Ends w Error.IsInvalid (s.session.run (.add title category due) w)
  := by
  have hcategory : IsCheck (checkGiven checkCategory category) :=
    isCheck_checkGiven (fun _ => isCheck_require _ _ _) category
  have hdue : IsCheck (checkGiven checkDue due) :=
    isCheck_checkGiven (fun _ => isCheck_require _ _ _) due
  have hcheck := (isCheck_checkTitle title).bind (hcategory.bind hdue)
  rw [Session.run, Session.add]
  apply ends_checked hcheck
  intro hok
  obtain ⟨_, htitle, -⟩ := bind_eq_ok_iff.mp hok
  obtain ⟨t, hcreate, -⟩ := Store.create_of_ne ⟨title, category, due⟩
    (trim_ne_of_checkTitle htitle) s.store.options.defaultCategory w.birth s.store.tasks
  apply ends_shown (Store.applies_add_inFolder s.folder s.store ⟨title, category, due⟩ w)
  intro e he
  rw [hcreate] at he
  cases he

/-- Why a command on the task that is designated may be refused. -/
def Refuses (s : FolderSession) (id : String) (e : Error) : Prop :=
  e.IsInvalid ∨ ∃ e', Store.resolve s.store.tasks id = .error e' ∧ e = .store e'

theorem ends_withTask {id : String} {continued : String → StateM World Outcome}
    (h : ∀ found, Store.resolve s.store.tasks id = .ok found →
      s.Ends w (s.Refuses id) (continued found w)) :
  s.Ends w (s.Refuses id) (s.session.withTask id continued w)
  := by
  apply ends_checked
  · intro e he
    left
    apply isCheck_checkId id e he
  · intro _
    cases hresolve : Store.resolve s.session.store.tasks id with
    | error e =>
      apply s.ends_fails w
      right
      exact ⟨e, hresolve, rfl⟩
    | ok found => apply h found hresolve

theorem ends_mark (id : String) (completed : Bool) :
  s.Ends w (s.Refuses id) (s.session.run (.mark id completed) w)
  := by
  rw [Session.run]
  apply ends_withTask
  intro found hresolve
  obtain ⟨spent, -, happlies⟩ :=
    Store.applies_setCompleted_inFolder s.folder s.store found completed w
  apply ends_shown happlies
  intro e he
  obtain ⟨result, hmark⟩ := Store.mark_of_resolve hresolve
    (if completed then some (w.readings w.read).stamp else none)
  rw [hmark] at he
  cases he

theorem ends_delete (id : String) :
  s.Ends w (s.Refuses id) (s.session.run (.delete id) w)
  := by
  rw [Session.run]
  apply ends_withTask
  intro found hresolve
  apply ends_shown (Store.Backend.applies_apply _ s.store (Store.delete found) w)
  intro e he
  obtain ⟨result, hdelete⟩ := Store.delete_of_resolve hresolve
  rw [hdelete] at he
  cases he

/-- The list is cleared only when that is confirmed, beforehand or in reply to the question. -/
theorem clear_cases (s : FolderSession) (confirmed : Bool) (w : World) :
  (∃ lines, s.session.clear confirmed w = (s.session.shows lines, w))
  ∨ (∃ reason, confirmed = false ∧ s.reply s.clearQuestion = .error reason
    ∧ s.session.clear confirmed w = (s.session.fails (.unanswered reason), w))
  ∨ (confirmed = true ∨ s.reply s.clearQuestion = .ok true) ∧ s.session.clear confirmed w
    = (s.store.removeAll (folderStorage s.folder) >>= fun removed =>
      pure (shown (fun n => ["Removed " ++ toString n ++ " tasks"]) removed)) w
  := by
  rw [Session.clear]
  split
  · left
    exact ⟨_, rfl⟩
  · cases confirmed with
    | true =>
      right
      right
      exact ⟨.inl rfl, rfl⟩
    | false =>
      have hasked : s.session.system.confirm ("Clear all " ++ toString s.session.store.tasks.length
          ++ " tasks?") w = (s.reply s.clearQuestion, w) := rfl
      simp only [Bool.false_eq_true, if_false, Store.Backend.bind_apply, hasked]
      rcases hreply : s.reply s.clearQuestion with reason | _ | _
      · right
        left
        exact ⟨reason, trivial, rfl, rfl⟩
      · left
        exact ⟨[], rfl⟩
      · right
        right
        exact ⟨.inr rfl, rfl⟩

theorem ends_clear (confirmed : Bool) :
  s.Ends w (fun e => ∃ reason, e = .unanswered reason) (s.session.run (.clear confirmed) w)
  := by
  rw [Session.run]
  obtain ⟨lines, hclear⟩ | ⟨reason, -, -, hclear⟩ | ⟨-, hclear⟩ := s.clear_cases confirmed w
  · rw [hclear]
    left
    refine ⟨⟨rfl, rfl⟩, ?_⟩
    intro e he
    cases he
  · rw [hclear]
    apply s.ends_fails w
    exact ⟨reason, rfl⟩
  · rw [hclear]
    apply ends_shown (Store.Backend.applies_apply _ s.store Store.clear w)
    intro e he
    cases he

theorem ends_clean :
  s.Ends w (fun _ => False) (s.session.run .clean w)
  := by
  rw [Session.run]
  apply ends_shown (Store.Backend.applies_apply _ s.store
    (Store.clean s.store.options.defaultCategory) w)
  intro e he
  cases he

theorem ends_sample :
  s.Ends w (fun _ => False) (s.session.run .sample w)
  := by
  rw [Session.run]
  obtain ⟨spent, happlies, -⟩ :=
    (Store.Backend.inFolder s.folder).applies_addSamples s.store w
  apply ends_shown happlies
  intro e he
  cases he

/-! ### Commands that look, write elsewhere or change the theme -/

/-- To load the theme changes nothing. -/
theorem loadTheme_apply (folder : String) (w : World) :
  ∃ answer, Theme.load (folderStorage folder) w = (answer, w)
  := by
  have hholds : (folderStorage folder).holds Theme.storageKey w
      = (w.disk.isPresent (Disk.join folder Theme.storageKey), w) := rfl
  rw [Theme.load, Store.Backend.bind_apply, hholds]
  split <;> exact ⟨_, rfl⟩

theorem keeps_chart (s : FolderSession) (w : World) (category : Option String) :
  s.Keeps w (s.session.chart category w)
  := by
  rw [Session.chart]
  cases checkGiven checkCategory category with
  | error e => apply s.keeps_fails
  | ok _ =>
    obtain ⟨answer, hload⟩ := loadTheme_apply s.folder w
    have hsession : Theme.load s.session.storage w = (answer, w) := hload
    simp only [Session.checked, Store.Backend.bind_apply, hsession]
    cases answer with
    | error fault => apply s.keeps_fails
    | ok theme => exact ⟨rfl, rfl⟩

/-- What an export does when its content is known: it fails and changes nothing, or it writes to
the path. -/
theorem write_cases (s : FolderSession) {w w' : World} (hdisk : w'.disk = w.disk)
    (path content line : String) :
  let result := (do
    match ← s.session.system.files.write path content.toUTF8 with
    | .error fault => return s.session.fails (.unwritten path fault)
    | .ok () => return s.session.shows [line] : StateM World Outcome) w'
  s.Keeps w result ∨ ∃ shown data w'', result = ((.ok shown, s.store), w'')
    ∧ w.disk.write path data = .ok w''.disk
  := by
  obtain ⟨changed, hwrite, heq⟩ | ⟨fault, -, heq⟩ :=
    Store.Backend.onDisk_attempt_cases (·.write path content.toUTF8) w'
  · have hrun : s.session.system.files.write path content.toUTF8 w'
        = (.ok (), { w' with disk := changed }) := heq
    right
    simp only [Store.Backend.bind_apply, hrun]
    rw [hdisk] at hwrite
    exact ⟨_, _, _, rfl, hwrite⟩
  · have hrun : s.session.system.files.write path content.toUTF8 w' = (.error fault, w') := heq
    left
    simp only [Store.Backend.bind_apply, hrun]
    exact ⟨rfl, hdisk⟩

theorem exportAs_cases (s : FolderSession) (w : World) (kind : ExportKind)
    (output : Option String) :
  s.Keeps w (s.session.exportAs kind output w)
  ∨ ∃ shown data w', s.session.exportAs kind output w = ((.ok shown, s.store), w')
    ∧ w.disk.write (s.exportPath kind output) data = .ok w'.disk
  := by
  cases hcheck : checkGiven checkOutput output with
  | error e =>
    left
    cases kind with
    | csv =>
      rw [Session.exportAs, hcheck]
      apply s.keeps_fails
    | report =>
      rw [Session.exportAs, hcheck]
      apply s.keeps_fails
  | ok _ =>
    cases kind with
    | csv =>
      rw [Session.exportAs, hcheck]
      apply s.write_cases rfl
    | report =>
      rw [Session.exportAs, hcheck]
      apply s.write_cases (World.disk_afterNow w)

/-- Nothing but the theme is written, and only the storage can fail. -/
theorem changeTheme_cases (s : FolderSession) (w : World) (chosen : Option Theme) :
  ∃ answer w', s.session.changeTheme chosen w = ((answer, s.store), w')
    ∧ (∀ e, answer = .error e → ∃ fault, e = .storage fault)
    ∧ (w' = w ∨ ∃ data, w' = ((folderStorage s.folder).write Theme.storageKey data w).2)
  := by
  obtain ⟨loaded, hload⟩ := loadTheme_apply s.folder w
  have hsession : Theme.load s.session.storage w = (loaded, w) := hload
  rw [Session.changeTheme, Store.Backend.bind_apply, hsession]
  cases loaded with
  | error fault =>
    refine ⟨_, _, rfl, ?_, .inl rfl⟩
    intro e he
    exact ⟨fault, (Except.error.inj he).symm⟩
  | ok theme =>
    let data := (chosen.getD theme.toggled).name.toUTF8
    have hsave : Theme.save s.session.storage (chosen.getD theme.toggled) w
        = (folderStorage s.folder).write Theme.storageKey data w := rfl
    simp only [Store.Backend.bind_apply, hsave]
    rcases hwrite : (folderStorage s.folder).write Theme.storageKey data w with ⟨fault | _, w'⟩
    · refine ⟨_, _, rfl, ?_, .inr ⟨data, by rw [hwrite]⟩⟩
      intro e he
      exact ⟨fault, (Except.error.inj he).symm⟩
    · refine ⟨_, _, rfl, ?_, .inr ⟨data, by rw [hwrite]⟩⟩
      intro e he
      cases he

end FolderSession

/-! ### What a command leaves as it was -/

/-- The command only looks at what there is. -/
inductive Command.IsLooking : Command → Prop
  | list (filter : Filter) : IsLooking (.list filter)
  | query (text : Option String) : IsLooking (.query text)
  | insights : IsLooking .insights
  | chart (category : Option String) : IsLooking (.chart category)

/-- The command is refused: an argument is not accepted, no task or more than one is designated,
or a question was not answered. -/
inductive Error.IsRefusal : Error → Prop
  | invalid (field reason : String) : IsRefusal (.invalid field reason)
  | notFound (id : String) : IsRefusal (.store (.notFound id))
  | ambiguousId (id : String) (count : Nat) : IsRefusal (.store (.ambiguousId id count))
  | unanswered (reason : String) : IsRefusal (.unanswered reason)

namespace FolderSession

/-- What the command leaves as it was, and how it cannot end.  Nothing is changed by a command that
only looks, by clearing that is not confirmed and by a command that is refused.  An export and the
command for themes keep the list and change one file.  Adding a task does not find its title
empty, and a command on a task that is designated does not miss it. -/
structure IsFramed (s : FolderSession) (w : World) (c : Command) (result : Outcome × World) :
    Prop where
  looking : c.IsLooking → s.Keeps w result
  unconfirmed : c = .clear false → s.reply s.clearQuestion ≠ .ok true → s.Keeps w result
  exports : ∀ kind output, c = .exportAs kind output → result.1.2 = s.store
    ∧ w.disk.ChangesOnly result.2.disk (w.disk.LeadsTo (s.exportPath kind output))
  /-- Within the folder everything is as before when the path leads elsewhere. -/
  outside : ∀ kind output base, c = .exportAs kind output → w.disk.base s.folder = .ok base →
    (∀ place, w.disk.LeadsTo (s.exportPath kind output) place → ¬ base <+: place) →
    ∀ place, base <+: place → result.2.disk.content? place = w.disk.content? place
  theme : ∀ chosen, c = .theme chosen → result.1.2 = s.store
    ∧ (w.IsFreshFor s.folder Theme.storageKey →
      w.disk.ChangesOnly result.2.disk (w.disk.IsPlaceOf s.folder Theme.storageKey))
  refused : ∀ e, result.1.1 = .error e → e.IsRefusal → s.Keeps w result
  titled : ∀ title category due, c = .add title category due →
    result.1.1 ≠ .error (.store .emptyTitle)
  found : ∀ id found, c = .delete id ∨ (∃ completed, c = .mark id completed) →
    Store.resolve s.store.tasks id = .ok found → ∀ id', result.1.1 ≠ .error (.store (.notFound id'))

variable {s : FolderSession} {w : World} {result : Outcome × World}

/-- A refused command has changed nothing when its errors, but that of the storage, are ones with
which it changes nothing. -/
theorem Ends.keeps {admitted : Error → Prop} (h : s.Ends w admitted result) {e : Error}
    (he : result.1.1 = .error e) (hrefusal : e.IsRefusal) :
  s.Keeps w result
  := by
  obtain ⟨hkeeps, -⟩ | hstorage := h
  · exact hkeeps
  · obtain ⟨fault, rfl⟩ := hstorage e he
    cases hrefusal

/-- An error that is not admitted and not of the storage does not occur. -/
theorem Ends.ne_error {admitted : Error → Prop} (h : s.Ends w admitted result) {e : Error}
    (hadmitted : ¬ admitted e) (hstorage : ∀ fault, e ≠ .store (.storage fault)) :
  result.1.1 ≠ .error e
  := by
  intro he
  obtain ⟨-, hkept⟩ | hfailed := h
  · apply hadmitted (hkept e he)
  · obtain ⟨fault, hfault⟩ := hfailed e he
    apply hstorage fault hfault

theorem keeps_of_isLooking (s : FolderSession) (w : World) {c : Command} (h : c.IsLooking) :
  s.Keeps w (s.session.run c w)
  := by
  cases h with
  | list f => exact ⟨rfl, rfl⟩
  | query text => exact ⟨rfl, rfl⟩
  | insights => exact ⟨rfl, rfl⟩
  | chart category => apply s.keeps_chart

theorem keeps_clear (s : FolderSession) (w : World) (h : s.reply s.clearQuestion ≠ .ok true) :
  s.Keeps w (s.session.run (.clear false) w)
  := by
  rw [Session.run]
  obtain ⟨lines, hclear⟩ | ⟨reason, -, -, hclear⟩ | ⟨hconfirmed, -⟩ := s.clear_cases false w
  · rw [hclear]
    exact ⟨rfl, rfl⟩
  · rw [hclear]
    apply s.keeps_fails
  · obtain hfalse | htrue := hconfirmed
    · contradiction
    · apply absurd htrue h

theorem changesOnly_exportAs (s : FolderSession) (w : World) (kind : ExportKind)
    (output : Option String) :
  (s.session.exportAs kind output w).1.2 = s.store
    ∧ w.disk.ChangesOnly (s.session.exportAs kind output w).2.disk
      (w.disk.LeadsTo (s.exportPath kind output))
  := by
  obtain ⟨hstore, hdisk⟩ | ⟨shown, data, w', hexport, hwrite⟩ := s.exportAs_cases w kind output
  · use hstore
    rw [hdisk]
    exact fun _ _ => rfl
  · rw [hexport]
    exact ⟨rfl, Disk.changesOnly_write hwrite⟩

theorem changesOnly_changeTheme (s : FolderSession) (w : World) (chosen : Option Theme) :
  (s.session.changeTheme chosen w).1.2 = s.store
    ∧ (w.IsFreshFor s.folder Theme.storageKey →
      w.disk.ChangesOnly (s.session.changeTheme chosen w).2.disk
        (w.disk.IsPlaceOf s.folder Theme.storageKey))
  := by
  obtain ⟨answer, w', htheme, -, rfl | ⟨data, rfl⟩⟩ := s.changeTheme_cases w chosen
  · rw [htheme]
    exact ⟨rfl, fun _ _ _ => rfl⟩
  · rw [htheme]
    use rfl
    intro hfresh
    have hid := hfresh.isIdentifier w.issued (Nat.le_refl _)
    have hname : Storage.IsName Theme.storageKey :=
      ⟨by decide, by decide, by decide, by decide⟩
    have hchanges := (hfresh.isUnused w.issued (Nat.le_refl _)).changesOnly_replace
      (hid.notMem (by decide)) (.inl hname) data
    rw [Store.Backend.folderStorage_write_eq]
    exact hchanges

/-- A command that is refused has changed nothing. -/
theorem keeps_of_isRefusal (s : FolderSession) (w : World) {c : Command} {e : Error}
    (he : (s.session.run c w).1.1 = .error e) (h : e.IsRefusal) :
  s.Keeps w (s.session.run c w)
  := by
  cases c with
  | add title category due => exact (s.ends_add title category due).keeps he h
  | mark id completed => exact (s.ends_mark id completed).keeps he h
  | delete id => exact (s.ends_delete id).keeps he h
  | clear confirmed => exact (s.ends_clear confirmed).keeps he h
  | clean => exact s.ends_clean.keeps he h
  | sample => exact s.ends_sample.keeps he h
  | list f => exact s.keeps_of_isLooking w (.list f)
  | query text => exact s.keeps_of_isLooking w (.query text)
  | insights => exact s.keeps_of_isLooking w .insights
  | chart category => exact s.keeps_of_isLooking w (.chart category)
  | exportAs kind output =>
    obtain hkeeps | ⟨shown, data, w', hexport, -⟩ := s.exportAs_cases w kind output
    · exact hkeeps
    · rw [Session.run, hexport] at he
      cases he
  | theme chosen =>
    obtain ⟨answer, w', htheme, hfault, -⟩ := s.changeTheme_cases w chosen
    rw [Session.run, htheme] at he
    obtain ⟨fault, rfl⟩ := hfault e he
    cases h

/-- Whatever the session and the disk are, every command leaves as it was what it is not to
change. -/
theorem run_isFramed (s : FolderSession) (w : World) (c : Command) :
  s.IsFramed w c (s.session.run c w)
  where
  looking := s.keeps_of_isLooking w
  unconfirmed := by
    rintro rfl hreply
    apply s.keeps_clear w hreply
  exports := by
    rintro kind output rfl
    apply s.changesOnly_exportAs
  outside := by
    rintro kind output base rfl - helsewhere place hplace
    apply (s.changesOnly_exportAs w kind output).2 place
    intro hleads
    apply helsewhere place hleads hplace
  theme := by
    rintro chosen rfl
    apply s.changesOnly_changeTheme
  refused e := s.keeps_of_isRefusal w
  titled := by
    rintro title category due rfl
    apply (s.ends_add title category due).ne_error
    · rintro ⟨field, reason, heq⟩
      cases heq
    · intro fault heq
      cases heq
  found := by
    intro id found hc hresolve id'
    have hadmitted : ¬ s.Refuses id (.store (.notFound id')) := by
      rintro (⟨field, reason, heq⟩ | ⟨e, herror, -⟩)
      · cases heq
      · rw [hresolve] at herror
        cases herror
    have hstorage : ∀ fault, Error.store (.notFound id') ≠ .store (.storage fault) := by
      intro fault heq
      cases heq
    obtain rfl | ⟨completed, rfl⟩ := hc
    · apply (s.ends_delete id).ne_error hadmitted hstorage
    · apply (s.ends_mark id completed).ne_error hadmitted hstorage

/-- A session without tasks in the working folder. -/
def emptySession : FolderSession where
  folder := ""
  config := {}
  store := ⟨[], Config.storeOptions {}⟩
  zone := id
  reply _ := .ok false

/-- A world with a file in its working folder. -/
def notedWorld : World :=
  { Storage.Access.emptyWorld with
    disk := ⟨.folder [("notes.txt", .file "Call".toUTF8)], []⟩ }

theorem opens_notedWorld :
  notedWorld.disk.Opens "" [] [("notes.txt", .file "Call".toUTF8)]
  := ⟨rfl, rfl⟩

theorem isFreshFor_notedWorld :
  notedWorld.IsFreshFor "" Theme.storageKey
  := by
  have hidentifier : ∀ k, IsIdentifier (notedWorld.identifiers k) := fun k => ⟨k, k, rfl⟩
  refine ⟨fun k _ => hidentifier k, ?_⟩
  intro k _ location entries name hopens hname _ hbegins
  obtain ⟨rfl, rfl⟩ := opens_notedWorld.unique hopens
  obtain rfl : "notes.txt" = name := by
    by_contra hother
    simp [Bindings.get?, hother] at hname
  have hlength := hbegins.length_le
  rw [(hidentifier k).length_toList] at hlength
  contradiction

/-- When the light theme is chosen in that world, it is kept in a file of its own. -/
theorem run_lightTheme_notedWorld :
  emptySession.session.run (.theme (some .light)) notedWorld
    = (emptySession.session.shows ["Theme: light"], { notedWorld.afterFresh with
      disk := ⟨.folder [("notes.txt", .file "Call".toUTF8),
        (Theme.storageKey, .file "light".toUTF8)], []⟩ })
  := by
  have hroom : Storage.Disk.HasRoom "" := ⟨by decide, by decide⟩
  have hname : Storage.IsName Theme.storageKey := ⟨by decide, by decide, by decide, by decide⟩
  have hid := isFreshFor_notedWorld.isIdentifier notedWorld.issued (Nat.le_refl _)
  have hunused := isFreshFor_notedWorld.isUnused notedWorld.issued (Nat.le_refl _)
  have hfits := hroom.fits hname (by decide) (by decide)
  have hreplace := opens_notedWorld.replace_eq
    (hroom.fits_temporaryName hid hname (by decide) (by decide)) hfits
    (Storage.temporaryName_ne _ _) (hunused.get?_temporaryName opens_notedWorld)
    Theme.light.name.toUTF8
  have hload : Theme.load emptySession.session.storage notedWorld = (.ok .dark, notedWorld) := by
    have hholds : emptySession.session.storage.holds Theme.storageKey notedWorld
        = (notedWorld.disk.isPresent (Storage.Disk.join "" Theme.storageKey), notedWorld) := rfl
    rw [opens_notedWorld.isPresent_eq hfits] at hholds
    rw [Theme.load, Store.Backend.bind_apply, hholds]
    rfl
  have hsave : Theme.save emptySession.session.storage .light notedWorld = _ :=
    Store.Backend.folderStorage_write_eq "" Theme.storageKey Theme.light.name.toUTF8 notedWorld
  rw [hreplace] at hsave
  simp only [Session.run, Session.changeTheme, Store.Backend.bind_apply, hload, Option.getD_some,
    hsave]
  rfl

/-- The other file is then as it was. -/
theorem run_isFramed_lightTheme :
  notedWorld.IsFreshFor emptySession.folder Theme.storageKey
    ∧ let disk := (emptySession.session.run (.theme (some .light)) notedWorld).2.disk
      disk.content? [Theme.storageKey] = some "light".toUTF8
        ∧ disk.content? ["notes.txt"] = some "Call".toUTF8
  := by
  have hframed := emptySession.run_isFramed notedWorld (.theme (some .light))
  refine ⟨isFreshFor_notedWorld, ?_, ?_⟩
  · rw [run_lightTheme_notedWorld]
    rfl
  · apply (hframed.theme (some .light) rfl).2 isFreshFor_notedWorld
    rintro ⟨location, hbase, hplace⟩
    obtain rfl : [] = location := Except.ok.inj hbase
    revert hplace
    decide

end FolderSession

end Cli

end Agenda
