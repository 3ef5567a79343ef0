import PenPlotter.CommandLine
import PenPlotter.Proofs.World.Change

/-!
# Running the program in a world

In a world the program is a function: each of its steps gives a result or a failure and the world
that is left.  This file says, for the steps that a conversion is made of, what each of them
gives.  Steps put together are run one after the other (`run_bind_ok`), up to the first failure
(`run_bind_error`).  Looking at files, at the environment and at the time leaves the world as it
is, and what has been printed before makes no difference to it.  What cannot be printed is a
failure like any other, but for the exit status.
-/

namespace PenPlotter

namespace CommandLine

variable {α β : Type} {w after : World}

/-! ## 1. Steps put together -/

section

variable {x : ExceptT Failure (StateM World) α} {f : α → ExceptT Failure (StateM World) β}

/-- What follows a result goes on from the world that it leaves. -/
theorem run_bind_ok {a : α} (h : x.run w = (.ok a, after)) :
    (x >>= f).run w = (f a).run after := by
  change ExceptT.bindCont f (x.run w).1 (x.run w).2 = _
  rw [h]
  rfl

/-- Nothing follows a failure. -/
theorem run_bind_error {failure : Failure} (h : x.run w = (.error failure, after)) :
    (x >>= f).run w = (.error failure, after) := by
  change ExceptT.bindCont f (x.run w).1 (x.run w).2 = _
  rw [h]
  rfl

end

/-- An action on a world, and another one on what it leaves. -/
theorem bind_apply (action : StateM World α) (next : α → StateM World β) (w : World) :
    (action >>= next) w = next (action w).1 (action w).2 := rfl

theorem pure_apply (a : α) (w : World) : (pure a : StateM World α) w = (a, w) := rfl

theorem run_attempt (failure : β → Failure) (action : StateM World (Except β α)) :
    (attempt failure action).run w = ((action w).1.mapError failure, (action w).2) := by
  rw [attempt, ExceptT.run_mk, bind_apply]
  cases (action w).1 <;> rfl

theorem run_result (failure : β → Failure) (r : Except β α) :
    (result failure r : ExceptT Failure (StateM World) α).run w = (r.mapError failure, w) :=
  run_attempt failure (pure r)

theorem run_result_ok {a : α} {r : Except β α} (failure : β → Failure) (h : r = .ok a) :
    (result failure r : ExceptT Failure (StateM World) α).run w = (.ok a, w) := by
  rw [run_result, h]
  rfl

theorem run_result_error {b : β} {r : Except β α} (failure : β → Failure) (h : r = .error b) :
    (result failure r : ExceptT Failure (StateM World) α).run w = (.error (failure b), w) := by
  rw [run_result, h]
  rfl

theorem run_lift (action : StateM World α) :
    (ExceptT.lift action : ExceptT Failure (StateM World) α).run w =
      (.ok (action w).1, (action w).2) := rfl

/-! ## 2. Looking at the world -/

theorem run_findFile (paths : List Text) :
    findFile World.platform paths w = (paths.find? (w.disk.isFile w.directory), w) := by
  induction paths with
  | nil => rfl
  | cons path rest ih =>
    change (if w.disk.isFile w.directory path then pure (some path)
      else findFile World.platform rest : StateM World (Option Text)) w = _
    rw [List.find?_cons]
    cases w.disk.isFile w.directory path with
    | true => rfl
    | false => exact ih

/-- The name of the user in a world. -/
def user (w : World) : Text :=
  (w.environment.lookup "USER").getD
    ((w.environment.lookup "USERNAME").getD "unknown".toList)

theorem run_userName : userName World.platform w = (user w, w) := by
  have hlookup : World.platform.lookup "USER" w = (w.environment.lookup "USER", w) := rfl
  rw [userName, bind_apply, hlookup, user]
  cases w.environment.lookup "USER" <;> rfl

/-- The comment lines at the head of a file that is converted in a world, if they are wanted. -/
def headIn (w : World) (program source target : Text) (wanted : Bool) : List Text :=
  if wanted then headerLines source target w.date (user w) program else []

theorem run_header (program source target : Text) (wanted : Bool) :
    header World.platform program source target wanted w =
      (headIn w program source target wanted, w) := by
  cases wanted with
  | false => rfl
  | true =>
    change (headerLines source target w.date (userName World.platform w).1 program,
      (userName World.platform w).2) = _
    rw [run_userName]
    rfl

/-- The settings that a settings file holds in a world; the defaults if none is named. -/
def loaded (lib : Libraries) (w : World) : Option Text → Except Failure Settings
  | none => .ok {}
  | some path =>
    ((w.readFile path).mapError (.configUnread path)).bind fun bytes =>
      (Settings.load lib.records bytes).mapError (.configUnloaded path)

theorem loaded_of_readFile (lib : Libraries) {path : Text} {bytes : List UInt8}
    (h : w.readFile path = .ok bytes) :
    loaded lib w (some path) =
      (Settings.load lib.records bytes).mapError (.configUnloaded path) := by
  rw [loaded, h]
  rfl

theorem run_read (failure : SystemFault → Failure) (path : Text) :
    (attempt failure (World.platform.read path)).run w =
      ((w.readFile path).mapError failure, w) :=
  run_attempt ..

theorem run_read_ok {path : Text} {bytes : List UInt8} (failure : SystemFault → Failure)
    (h : w.readFile path = .ok bytes) :
    (attempt failure (World.platform.read path)).run w = (.ok bytes, w) := by
  rw [run_read, h]
  rfl

theorem run_read_error {path : Text} {fault : SystemFault} (failure : SystemFault → Failure)
    (h : w.readFile path = .error fault) :
    (attempt failure (World.platform.read path)).run w = (.error (failure fault), w) := by
  rw [run_read, h]
  rfl

theorem run_loadSettings (lib : Libraries) (config : Option Text) :
    (loadSettings lib World.platform config).run w = (loaded lib w config, w) := by
  cases config with
  | none => rfl
  | some path =>
    rw [loadSettings, loaded]
    cases hbytes : w.readFile path with
    | error fault => exact run_bind_error (run_read_error _ hbytes)
    | ok bytes =>
      rw [run_bind_ok (run_read_ok _ hbytes)]
      exact run_result ..

/-! ## 3. Printing and writing -/

/-- The world after something has been printed. -/
def printed (w : World) (t : Text) : World :=
  { w with output := w.output ++ t }

theorem run_say_ok (t : Text) (h : w.refusals.printing w.output = none) :
    (say World.platform t).run w = (.ok (), printed w t) := by
  rw [say, run_attempt]
  change ((World.print t w).1.mapError Failure.unprinted, (World.print t w).2) = _
  rw [World.print, h]
  rfl

theorem run_say_error {fault : SystemFault} (t : Text)
    (h : w.refusals.printing w.output = some fault) :
    (say World.platform t).run w = (.error (.unprinted fault), w) := by
  rw [say, run_attempt]
  change ((World.print t w).1.mapError Failure.unprinted, (World.print t w).2) = _
  rw [World.print, h]
  rfl

theorem run_read_printed_ok {path : Text} {bytes : List UInt8} (failure : SystemFault → Failure)
    (t : Text) (h : w.readFile path = .ok bytes) :
    (attempt failure (World.platform.read path)).run (printed w t) = (.ok bytes, printed w t) :=
  run_read_ok failure h

theorem run_read_printed_error {path : Text} {fault : SystemFault}
    (failure : SystemFault → Failure) (t : Text) (h : w.readFile path = .error fault) :
    (attempt failure (World.platform.read path)).run (printed w t) =
      (.error (failure fault), printed w t) :=
  run_read_error failure h

theorem run_header_printed (program source target : Text) (wanted : Bool) (t : Text) :
    (ExceptT.lift (header World.platform program source target wanted) :
      ExceptT Failure (StateM World) (List Text)).run (printed w t) =
        (.ok (headIn w program source target wanted), printed w t) := by
  rw [run_lift, run_header]
  rfl

/-- What has been printed makes no difference to a change of a file. -/
theorem changes_of_printed {kept : List UInt8 → List UInt8} {path t : Text}
    {bytes : List UInt8} {r : Except SystemFault Unit} {disk : Disk}
    (h : (printed w t).Changes kept path bytes r disk) : w.Changes kept path bytes r disk := by
  cases h with
  | refused h => exact .refused h
  | stopped hopen hlimit hn => exact .stopped hopen hlimit hn
  | done hopen htakes => exact .done hopen htakes

/-- A file is written in one of the ways in which files are changed. -/
theorem exists_run_write (w : World) (failure : SystemFault → Failure) (path : Text)
    (bytes : List UInt8) : ∃ r disk, w.Changes (fun _ => []) path bytes r disk ∧
      (attempt failure (World.platform.write path bytes)).run w =
        (r.mapError failure, { w with disk }) := by
  obtain ⟨r, disk, hchanges, hchange⟩ := w.exists_changes (fun _ => []) path bytes
  refine ⟨r, disk, hchanges, ?_⟩
  rw [run_attempt]
  change ((World.change (fun _ => []) path bytes w).1.mapError failure,
    (World.change (fun _ => []) path bytes w).2) = _
  rw [hchange]

/-- A file that is opened and takes all bytes is written. -/
theorem run_write_ok {path : Text} {p : Place} {bytes : List UInt8}
    (failure : SystemFault → Failure) (hopen : w.openFile path = .ok p)
    (htakes : w.Takes p bytes) :
    (attempt failure (World.platform.write path bytes)).run w =
      (.ok (), { w with disk := w.disk.put p (.file bytes) }) := by
  rw [run_attempt]
  change ((World.change (fun _ => []) path bytes w).1.mapError failure,
    (World.change (fun _ => []) path bytes w).2) = _
  rw [World.change_of_takes hopen htakes]
  rfl

/-! ## 4. The exit status -/

/-- The exit status of the program after a command has ended in a world.  A failure that cannot be
printed breaks the program off. -/
def exitStatus (w : World) : Except Failure Unit → Nat
  | .ok _ => 0
  | .error failure =>
    if (w.refusals.printingErrors w.errorOutput).isSome then 101 else failure.status

theorem exitStatus_error (w : World) (failure : Failure) :
    exitStatus w (.error failure) = failure.status ∧
        w.refusals.printingErrors w.errorOutput = none ∨
      exitStatus w (.error failure) = 101 ∧ w.refusals.printingErrors w.errorOutput ≠ none := by
  rw [exitStatus]
  cases w.refusals.printingErrors w.errorOutput <;> simp

/-- The exit status of a failure is not zero. -/
theorem exitStatus_error_ne_zero (w : World) (failure : Failure) :
    exitStatus w (.error failure) ≠ 0 := by
  have hfailure : failure.status ≠ 0 := by cases failure <;> simp [Failure.status]
  rcases exitStatus_error w failure with ⟨h, -⟩ | ⟨h, -⟩
  · rwa [h]
  · rw [h]
    decide

/-- The exit status zero is that of no failure. -/
theorem eq_ok_of_exitStatus {r : Except Failure Unit} (h : exitStatus w r = 0) : r = .ok () := by
  cases r with
  | ok _ => rfl
  | error failure => exact absurd h (exitStatus_error_ne_zero w failure)

/-- What is said of a failure leaves the disk as it is. -/
theorem report_eq (failure : Failure) :
    (report World.platform failure w).1 = exitStatus w (.error failure) ∧
      (report World.platform failure w).2.disk = w.disk := by
  have hprint (t : Text) : World.platform.printError t w = World.printError t w := rfl
  cases hrefused : w.refusals.printingErrors w.errorOutput <;> cases failure <;>
    simp [report, bind_apply, pure_apply, hprint, World.printError, exitStatus, hrefused,
      Failure.status]

/-- Ending the program gives the exit status and leaves the disk as it is. -/
theorem run_finish (command : ExceptT Failure (StateM World) Unit) :
    (finish World.platform command w).1 = exitStatus (command.run w).2 (command.run w).1 ∧
      (finish World.platform command w).2.disk = (command.run w).2.disk := by
  rw [finish, bind_apply]
  cases (command.run w).1 with
  | ok _ => exact ⟨rfl, rfl⟩
  | error failure => exact report_eq failure

/-- Arguments that ask neither for the usage nor for sending ask for a conversion. -/
theorem run_eq_convertFile (lib : Libraries) (program : Text) {args : List Text}
    (husage : asksForUsage args = false) (hsend : args.head? ≠ some "send".toList) :
    run lib World.platform program args =
      finish World.platform (convertFile lib World.platform program args) := by
  cases args with
  | nil => cases husage
  | cons word rest =>
    rw [run, if_neg (by rw [husage]; exact Bool.false_ne_true)]
    exact if_neg fun h => hsend (congrArg some h)

end CommandLine

end PenPlotter
