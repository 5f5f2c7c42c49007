import Dossier.Browser

/-!
# Saving a page

A page is printed to a file by the browser.  Each page gets a context of its
own, so that the cookies for one page never reach another, and the context is
closed however the printing ends.  The size of the file is read back from the
store.
-/

namespace Dossier.Saving

/-- Gives the cookies for a URL to a context that is open, if there are any. -/
def giveCookies (url : String) (cookies : Cookies) : Act Unit :=
  if cookies.isEmpty then pure ()
  else do
    let given ← Act.ofExcept Fault.host (cookies.browserCookies url)
    Browser.call (.cookiesAdded given)

/-- Writes what a browser has printed, if it has printed anything. -/
def keepOutput (file : Path) (reaction : Reaction) : Act Unit :=
  match reaction.output with
  | some output => Disk.write file (.plain output)
  | none => pure ()

/-- Prints what is behind a URL from a page that is open. -/
def printFrom (settings : Settings) (url : String) (file : Path) : Act Unit := do
  Browser.call (.visited url settings.navigationTimeout)
  let reaction ← Act.browse (.printed file settings.pageFormat)
  keepOutput file reaction
  Act.settle reaction

/-- Visits a page with cookies, in a context that is open, and prints it. -/
def visit (settings : Settings) (url : String) (file : Path) (cookies : Cookies) : Act Unit := do
  giveCookies url cookies
  Browser.call .pageOpened
  printFrom settings url file

/-- Prints a page with the browser, which is open. -/
def print (settings : Settings) (url : String) (file : Path) (cookies : Cookies) : Act Unit := do
  let naming := Browser.asRendering (.page url)
  (Browser.call .contextOpened).mapFault naming
  ((visit settings url file cookies).mapFault naming).andAlways (Browser.call .contextClosed)

/-- Saves the page behind a URL and gives its size. -/
def page (settings : Settings) (url : String) (file : Path) (cookies : Cookies) : Act Nat := do
  Browser.ensureOpen settings
  Disk.ensureParent file
  print settings url file cookies
  Disk.during (.readBack file) (Disk.size file)

end Dossier.Saving
