import Dossier.Disk

/-!
# The browser

One browser serves all pages of a run.  Its driver is started and the browser
launched when the first page is printed, and both are held until they are shut
down.  A launch that fails is followed by a shutdown, so that a browser is
never held without its driver and a driver never without its browser.

Shutting down lets go of both first, so that a shutdown that fails is not
tried again.
-/

namespace Dossier.Browser

/-- Makes a call on the browser. -/
def call (e : Event) : Act Unit := do
  let reaction ← Act.browse e
  Act.settle reaction

/-- A fault of the browser as one of rendering. -/
def asRendering (cause : String → RenderFault) : Fault → Fault
  | .browser message => .render (cause message)
  | fault => fault

/-- Changes the handles. -/
def hold (change : Handles → Handles) : Act Unit :=
  modify fun s => { s with handles := change s.handles }

/-- Closes the browser if it is held, then stops its driver if that is held. -/
def shutDown (held : Handles) : Act Unit :=
  Act.andAlways (if held.browser then call .browserClosed else pure ())
    (if held.driver then call .driverStopped else pure ())

/-- Lets go of the browser and its driver and shuts them down. -/
def close : Act Unit := do
  let held := (← get).handles
  hold fun _ => {}
  (shutDown held).mapFault (asRendering .shutdown)

/-- Starts the driver and launches the browser. -/
def launch (settings : Settings) : Act Unit := do
  call .driverStarted
  hold fun h => { h with driver := true }
  call (.browserLaunched settings.headless)
  hold fun h => { h with browser := true }

/-- Shuts down what a launch that failed has left. -/
def abandon : Fault → Act Unit
  | .browser message => do
    close
    throw (.render (.launch message))
  | fault => throw fault

/-- Launches the browser unless it is held. -/
def ensureOpen (settings : Settings) : Act Unit := do
  if (← get).handles.browser then return
  if !(← Act.environment).hasBrowser then throw (.render .missing)
  Act.note .startingBrowser
  (launch settings).rescue abandon

end Dossier.Browser
