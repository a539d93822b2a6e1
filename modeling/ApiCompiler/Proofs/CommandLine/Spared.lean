import ApiCompiler.Proofs.CommandLine.Generate
import ApiCompiler.Proofs.Files.Spared

/-!
# Files that a run leaves alone

All that a run does before its module is put in place spares every file: it opens its session, reads
its settings and its document, and checks a module, whatever comes of it.
-/

namespace ApiCompiler

open Work

namespace Settings

theorem spares_homeDirectory : Spares homeDirectory := by
  refine (spares_query fun _ => rfl).bind fun home => ?_
  dsimp only
  split
  · exact spares_pure _
  · split
    · exact spares_throw _
    · exact spares_pure _

theorem spares_namedDirectory (name : String) (below : List String) :
    Spares (namedDirectory name below) := by
  refine (spares_query fun _ => rfl).bind fun named => ?_
  dsimp only
  split
  · exact spares_homeDirectory.bind fun _ => spares_pure _
  · exact spares_pure _

theorem spares_made (path : Files.Path) : Spares (made path) :=
  (spares_makeDirectories path).bind fun _ => spares_pure _

theorem spares_configDirectory : Spares configDirectory := by
  refine (spares_query fun _ => rfl).bind fun system => ?_
  split
  · exact (spares_namedDirectory _ _).bind fun _ => spares_made _
  · exact spares_homeDirectory.bind fun _ => spares_made _

theorem spares_readFile? (owner : Owner) (path : Files.Path) : Spares (readFile? owner path) := by
  refine (spares_onFiles (Action.spares_query fun _ => rfl)).bind fun present => ?_
  cases present with
  | false => exact spares_pure _
  | true =>
      refine (spares_query fun _ => rfl).bind fun content => ?_
      cases content with
      | error fault => cases fault <;> exact spares_throw _
      | ok text =>
          dsimp only
          split
          · exact spares_pure _
          · exact spares_throw _

theorem spares_readUser : Spares readUser := by
  refine spares_configDirectory.bind fun path => (spares_readFile? _ _).bind fun found => ?_
  cases found with
  | none => exact spares_pure _
  | some value =>
      dsimp only
      split
      · exact spares_pure _
      · exact spares_throw _

theorem spares_readProject : Spares readProject := by
  refine (spares_query fun _ => rfl).bind fun path => (spares_readFile? _ _).bind fun found => ?_
  rcases found with _ | value
  · exact spares_pure _
  · cases value with
    | map entries => exact spares_pure _
    | _ => exact spares_throw _

theorem spares_readEnvironment : Spares readEnvironment :=
  (spares_query fun _ => rfl).bind fun _ => (spares_query fun _ => rfl).bind fun _ =>
    (spares_query fun _ => rfl).bind fun _ => spares_pure _

theorem spares_effective (given : Generation) : Spares (effective given) :=
  spares_readUser.bind fun _ => spares_readProject.bind fun _ => (spares_ofResult _).bind fun _ =>
    spares_readEnvironment.bind fun _ => spares_pure _

end Settings

namespace Document

/-- Reading a document changes nothing. -/
theorem spares_load (source : String) : (load source).Spares := by
  unfold load
  split
  · refine Action.Spares.bind ?_ fun _ => Action.spares_pure _
    exact (Action.spares_query fun _ => rfl).bind fun _ => Action.spares_pure _
  · split
    · refine Action.Spares.bind ?_ fun _ => Action.spares_pure _
      unfold ofAddress
      split
      · exact (Action.spares_query fun _ => rfl).bind fun _ => Action.spares_pure _
      · exact Action.spares_pure _
    · refine Action.Spares.bind ?_ fun _ => Action.spares_pure _
      refine (Action.spares_query fun _ => rfl).bind fun present => ?_
      split
      · exact Action.spares_pure _
      · exact Action.spares_pure _
      · exact (Action.spares_query fun _ => rfl).bind fun _ => Action.spares_pure _

end Document

namespace Session

theorem spares_remark (session : Session) (tone : Tone) (text : String) :
    Spares (session.put (.remark tone text)) :=
  fun machine => (Machine.Spared.emit_empty machine .output).trans
    (Machine.Spared.emit_diagnostics _ _)

theorem spares_record (session : Session) (channel : String) (level : Level) (text : String) :
    Spares (session.put (.record channel level text)) :=
  fun machine => (Machine.Spared.emit_empty machine .output).trans
    (Machine.Spared.emit_diagnostics _ _)

theorem spares_report {α : Type} (session : Session) (work : Logged α) :
    Spares (session.report work) :=
  (spares_forM fun _ => spares_record session _ _ _).bind fun _ => spares_ofResult _

end Session

namespace CommandLine

theorem spares_openSession (manner : Manner) : Spares (openSession manner) := by
  unfold openSession
  dsimp only
  split
  · exact (spares_pure _).bind fun _ => spares_pure _
  · split
    · exact (spares_pure _).bind fun _ => spares_pure _
    · rw [map_eq_pure_bind]
      exact (Settings.spares_readUser.bind fun _ => spares_pure _).bind fun _ => spares_pure _

theorem spares_opened (manner : Manner) (given : Generation) : Spares (opened manner given) :=
  (spares_openSession manner).bind fun _ => (Settings.spares_effective given).bind fun _ =>
    spares_pure _

theorem spares_moduleOf (session : Session) (source : String) (generation : Generation) :
    Spares (moduleOf session source generation) :=
  (session.spares_remark _ _).bind fun _ =>
    (spares_lift (Document.spares_load source)).bind fun loaded =>
      (session.spares_report loaded).bind fun _ => (session.spares_report _).bind fun _ =>
        (session.spares_report _).bind fun _ => spares_pure _

end CommandLine

end ApiCompiler
