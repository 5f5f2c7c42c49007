import Dossier.Proofs.Run.Contents
import Dossier.Proofs.Store.Progress

/-!
# Scenes

Without a subject and a threshold a row depends on two things in the state it
meets: what the store shows and which cookies are in force.  They are its
*scene*.  Where each URL always gives the same, the scene after a row follows
from the scene before it (`Turn.plays`), and with it the scene after a list of
rows, whatever the environment is (`Turns.plays`).

A list of actions is *playable* in a scene if each of them is ready when its
turn comes.  Actions that were taken are playable (`Turns.playable`).  They are
still playable where all that they save is there already, and then they save
nothing (`Playable.again`).  So they are playable where they were taken in part
(`Playable.resume`).
-/

namespace Dossier

open Script (Directive Source Action)

/-- What a row depends on: what the store shows and the cookies in force. -/
structure Scene where
  view : Store.View
  cookies : Cookies

/-- The scene of a state. -/
def State.scene (s : State) : Scene := ⟨s.store.get?, s.cookies⟩

/-- The scene after an action. -/
def Settings.play (settings : Settings) (bodies pages : String → Bytes) (output : Location)
    (scene : Scene) : Action → Scene
  | .cookies blob =>
    match Cookies.decode blob with
    | .ok cookies => { scene with cookies := cookies }
    | .error _ => scene
  | .save source d =>
    if settings.leavesOut source = false ∧ scene.view (Run.place output d) = none then
      { scene with
        view := scene.view.saved (Run.place output d) (.plain (source.served bodies pages)) }
    else scene
  | .archiveName _ => scene

/-- The scene after a list of actions. -/
def Settings.played (settings : Settings) (bodies pages : String → Bytes) (output : Location)
    (scene : Scene) (actions : List Action) : Scene :=
  actions.foldl (settings.play bodies pages output) scene

namespace Run

variable {settings : Settings} {env : Environment} {s s' : State} {output : Location}
  {bodies pages : String → Bytes} {scene other : Scene} {action : Action} {actions : List Action}

/-! ## Playing -/

theorem play_cookies {blob : String} {cookies : Cookies} (h : Cookies.decode blob = .ok cookies) :
    settings.play bodies pages output scene (.cookies blob) =
      { scene with cookies := cookies } := by
  rw [Settings.play, h]

theorem play_save {source : Source} {d : String} (hwanted : settings.leavesOut source = false)
    (hfree : scene.view (place output d) = none) :
    settings.play bodies pages output scene (.save source d) = { scene with
      view := scene.view.saved (place output d) (.plain (source.served bodies pages)) } :=
  if_pos ⟨hwanted, hfree⟩

theorem play_skip {source : Source} {d : String}
    (h : settings.leavesOut source = true ∨ scene.view (place output d) ≠ none) :
    settings.play bodies pages output scene (.save source d) = scene := by
  refine if_neg fun ⟨hwanted, hfree⟩ => ?_
  rcases h with hout | hthere
  · rw [hout] at hwanted
    cases hwanted
  · exact hthere hfree

/-- What is there stays there as it is. -/
theorem play_of_some {l : Location} {e : Entry} (h : scene.view l = some e) (action : Action) :
    (settings.play bodies pages output scene action).view l = some e := by
  cases action with
  | archiveName name => exact h
  | cookies blob =>
      rw [Settings.play]
      split <;> exact h
  | save source d =>
      rw [Settings.play]
      split
      · rename_i hsave
        have hl : l ≠ place output d := by
          rintro rfl
          rw [h] at hsave
          cases hsave.2
        show Store.View.saved _ _ _ l = _
        rw [Store.View.saved, if_neg hl, Store.View.opened_of_some h]
      · exact h

theorem played_cons (rest : List Action) :
    settings.played bodies pages output scene (action :: rest) =
      settings.played bodies pages output (settings.play bodies pages output scene action) rest :=
  rfl

theorem played_append (rest : List Action) :
    settings.played bodies pages output scene (actions ++ rest) =
      settings.played bodies pages output (settings.played bodies pages output scene actions)
        rest := List.foldl_append ..

theorem played_of_some {l : Location} {e : Entry} {actions : List Action}
    (h : scene.view l = some e) :
    (settings.played bodies pages output scene actions).view l = some e := by
  induction actions generalizing scene with
  | nil => exact h
  | cons action rest ih =>
      rw [played_cons]
      exact ih (play_of_some h action)

/-! ## Turns -/

/-- The scene after a turn follows from the scene before it. -/
theorem Turn.plays (hthreshold : settings.threshold = none) (hserves : env.Serves bodies pages)
    (h : Turn settings env output s s' action) :
    s'.scene = settings.play bodies pages output s.scene action := by
  cases h with
  | @cookies blob cookies decoded store accounts =>
      rw [play_cookies decoded, State.scene, State.scene, store]
      exact congrArg (Scene.mk _) (congrArg Accounts.cookies accounts)
  | leftOut out store accounts =>
      rw [play_skip (Or.inl out), State.scene, State.scene, store]
      exact congrArg (Scene.mk _) (congrArg Accounts.cookies accounts)
  | present _ there _ _ store accounts =>
      rw [play_skip (Or.inr (by simp [State.scene, there])), State.scene, State.scene, store]
      exact congrArg (Scene.mk _) (congrArg Accounts.cookies accounts)
  | fetched wanted free yields _ _ _ view accounts =>
      rw [play_save wanted free, State.scene, State.scene, view, hserves.yields yields]
      exact congrArg (Scene.mk _) (congrArg Accounts.cookies accounts)
  | refetched _ _ small _ _ _ _ _ =>
      obtain ⟨_, hsome, _⟩ := small
      rw [hthreshold] at hsome
      cases hsome

/-- The scene after turns follows from the scene before them. -/
theorem Turns.plays (hthreshold : settings.threshold = none) (hserves : env.Serves bodies pages)
    (h : Turns settings env output s actions s') :
    s'.scene = settings.played bodies pages output s.scene actions := by
  induction h with
  | done => rfl
  | next turn _ ih => rw [ih, turn.plays hthreshold hserves]; rfl

/-! ## Playable actions -/

/-- An action can be carried out in a scene without a subject and a threshold. -/
inductive Ready (settings : Settings) (output : Location) (scene : Scene) : Action → Prop
  /-- The cookies can be read. -/
  | cookies {blob : String} {cookies : Cookies} (decoded : Cookies.decode blob = .ok cookies) :
      Ready settings output scene (.cookies blob)
  /-- The page is not wanted. -/
  | leftOut {source : Source} {d : String} (out : settings.leavesOut source = true) :
      Ready settings output scene (.save source d)
  /-- The destination is there already. -/
  | present {source : Source} {d : String} {e : Entry} (wanted : settings.leavesOut source = false)
      (there : scene.view (place output d) = some e) (short : (place output d).Short) :
      Ready settings output scene (.save source d)
  /-- The destination is free and the way to it is open. -/
  | vacant {source : Source} {d : String} (wanted : settings.leavesOut source = false)
      (free : scene.view (place output d) = none) (short : (place output d).Short)
      (way : scene.view.Open (place output d).dropLast) (takes : source.Takes scene.cookies) :
      Ready settings output scene (.save source d)

/-- Each of a list of actions is ready when its turn comes. -/
def Playable (settings : Settings) (bodies pages : String → Bytes) (output : Location)
    (scene : Scene) : List Action → Prop
  | [] => True
  | action :: rest => Ready settings output scene action ∧
      Playable settings bodies pages output (settings.play bodies pages output scene action) rest

/-- A turn is taken by an action that is ready. -/
theorem Turn.ready (hthreshold : settings.threshold = none)
    (h : Turn settings env output s s' action) : Ready settings output s.scene action := by
  cases h with
  | cookies decoded _ _ => exact .cookies decoded
  | leftOut out _ _ => exact .leftOut out
  | present wanted there short _ _ _ => exact .present wanted there short
  | @fetched source d data wanted free yields takes short tree view accounts =>
      refine .vacant wanted free short ?_ takes
      -- the file was put into a directory, and nothing else was made but directories above it
      have hfile : s'.store.get? (place output d) = some (.file (.plain data)) := by
        rw [view, Store.View.saved, if_pos rfl]
      have hway := tree.open_of_directory (tree.directory_of_some hfile)
      intro m hm
      have hne : m ≠ place output d := fun he =>
        Store.dropLast_ne_self (place_ne_nil output d)
          ((List.dropLast_prefix _).eq_of_length_le (he ▸ hm).length_le)
      have hnow := hway m hm
      rw [view, Store.View.saved, if_neg hne, Store.View.opened] at hnow
      by_cases hnone : s.store.get? m = none
      · exact Or.inl hnone
      · rwa [if_neg fun h => hnone h.2] at hnow
  | refetched _ _ small _ _ _ _ _ =>
      obtain ⟨_, hsome, _⟩ := small
      rw [hthreshold] at hsome
      cases hsome

theorem Turns.playable (hthreshold : settings.threshold = none) (hserves : env.Serves bodies pages)
    (h : Turns settings env output s actions s') :
    Playable settings bodies pages output s.scene actions := by
  induction h with
  | done => trivial
  | next turn _ ih => exact ⟨turn.ready hthreshold, turn.plays hthreshold hserves ▸ ih⟩

theorem playable_append {rest : List Action} :
    Playable settings bodies pages output scene (actions ++ rest) ↔
      Playable settings bodies pages output scene actions ∧
        Playable settings bodies pages output (settings.played bodies pages output scene actions)
          rest := by
  induction actions generalizing scene with
  | nil => exact ⟨fun h => ⟨trivial, h⟩, And.right⟩
  | cons action actions ih =>
      show _ ∧ Playable settings bodies pages output _ (actions ++ rest) ↔ _
      rw [ih, ← and_assoc]
      rfl

/-- Where what an action saves is there already, the action is still ready, and
it saves nothing. -/
theorem Ready.again (h : Ready settings output scene action)
    (hcookies : other.cookies = scene.cookies)
    (hthere : ∀ l, (settings.play bodies pages output scene action).view l ≠ none →
      other.view l ≠ none) :
    Ready settings output other action ∧ settings.play bodies pages output other action =
      { other with cookies := (settings.play bodies pages output scene action).cookies } := by
  cases h with
  | cookies decoded =>
      rw [play_cookies decoded, play_cookies decoded]
      exact ⟨.cookies decoded, rfl⟩
  | leftOut out =>
      rw [play_skip (Or.inl out), play_skip (Or.inl out), ← hcookies]
      exact ⟨.leftOut out, rfl⟩
  | @present source d e wanted there short =>
      have hother := hthere _ (by rw [play_of_some there]; exact nofun)
      obtain ⟨e', he'⟩ := Option.ne_none_iff_exists'.mp hother
      rw [play_skip (Or.inr hother), play_skip (Or.inr (by simp [there])), ← hcookies]
      exact ⟨.present wanted he' short, rfl⟩
  | @vacant source d wanted free short way takes =>
      rw [play_save wanted free] at hthere ⊢
      have hother := hthere (place output d) (by simp [Store.View.saved])
      obtain ⟨e', he'⟩ := Option.ne_none_iff_exists'.mp hother
      rw [play_skip (Or.inr hother), ← hcookies]
      exact ⟨.present wanted he' short, rfl⟩

namespace Playable

/-- Where all that actions save is there already, they are still playable, and
they save nothing. -/
theorem again (h : Playable settings bodies pages output scene actions)
    (hcookies : other.cookies = scene.cookies)
    (hthere : ∀ l, (settings.played bodies pages output scene actions).view l ≠ none →
      other.view l ≠ none) :
    Playable settings bodies pages output other actions ∧
      settings.played bodies pages output other actions = { other with
        cookies := (settings.played bodies pages output scene actions).cookies } := by
  induction actions generalizing scene other with
  | nil =>
      refine ⟨trivial, ?_⟩
      show other = { other with cookies := scene.cookies }
      rw [← hcookies]
  | cons action rest ih =>
      obtain ⟨hready, hrest⟩ := h
      have hsaved : ∀ l, (settings.play bodies pages output scene action).view l ≠ none →
          other.view l ≠ none := by
        intro l hl
        obtain ⟨e, he⟩ := Option.ne_none_iff_exists'.mp hl
        exact hthere l (by rw [played_cons, played_of_some he]; exact nofun)
      obtain ⟨hother, hplay⟩ := hready.again hcookies hsaved
      obtain ⟨hplayable, hplayed⟩ := @ih _ (settings.play bodies pages output other action)
        hrest (by rw [hplay]) (by rw [hplay]; exact hthere)
      refine ⟨⟨hother, hplayable⟩, hplayed.trans ?_⟩
      rw [hplay]
      rfl

/-- Actions that were taken up to one that saves to a free place are still
playable after that, with the directories above the place there, and end in the
same scene. -/
theorem resume (other : Scene) {before after : List Action} {source : Source} {d : String}
    (h : Playable settings bodies pages output scene (before ++ .save source d :: after))
    (hwanted : settings.leavesOut source = false)
    (hfree : (settings.played bodies pages output scene before).view (place output d) = none)
    (hview : other.view = (settings.played bodies pages output scene before).view.opened
      (place output d).dropLast) (hcookies : other.cookies = scene.cookies) :
    Playable settings bodies pages output other (before ++ .save source d :: after) ∧
      settings.played bodies pages output other (before ++ .save source d :: after) =
        settings.played bodies pages output scene (before ++ .save source d :: after) := by
  obtain ⟨hbefore, hready, hafter⟩ := playable_append.mp h
  have hthere : ∀ l, (settings.played bodies pages output scene before).view l ≠ none →
      other.view l ≠ none := by
    intro l hl
    obtain ⟨e, he⟩ := Option.ne_none_iff_exists'.mp hl
    rw [hview, Store.View.opened_of_some he]
    exact nofun
  obtain ⟨hother, hplayed⟩ := hbefore.again hcookies hthere
  have hmiddle : (settings.played bodies pages output other before).view =
      (settings.played bodies pages output scene before).view.opened (place output d).dropLast := by
    rw [hplayed, hview]
  have hfree' :
      (settings.played bodies pages output other before).view (place output d) = none := by
    rw [hmiddle, Store.View.opened_dropLast_self (place_ne_nil output d), hfree]
  -- the save leads from both scenes to the same one
  have hsame : settings.play bodies pages output
      (settings.played bodies pages output other before) (.save source d) =
      settings.play bodies pages output
        (settings.played bodies pages output scene before) (.save source d) := by
    rw [play_save hwanted hfree', play_save hwanted hfree, hmiddle, hplayed,
      Store.View.saved_opened]
  have hready' : Ready settings output (settings.played bodies pages output other before)
      (.save source d) := by
    cases hready with
    | leftOut out => exact .leftOut out
    | present _ there _ =>
        rw [hfree] at there
        cases there
    | vacant wanted free short way takes =>
        refine .vacant wanted hfree' short (hmiddle ▸ way.opened _) ?_
        rw [hplayed]
        exact takes
  refine ⟨playable_append.mpr ⟨hother, hready', hsame ▸ hafter⟩, ?_⟩
  rw [played_append, played_append, played_cons, played_cons, hsame]

end Playable

end Run

end Dossier
