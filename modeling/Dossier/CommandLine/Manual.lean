/-!
# The manual

The texts that the command line shows on request or after a misuse, for
terminals of 80 columns.
-/

namespace Dossier.CommandLine.Manual

/-- The name of the program. -/
def program : String := "save-answersheets"

/-- The line with the version. -/
def version : String := program ++ " 1.2.0\n"

/-- How the program is used. -/
def usage : String :=
  "usage: " ++ program ++ " [-h] [-a SUBJECT] [-r SIZE] [--skip-pdfs] [--version]\n" ++
  "                         [INSTRUCTIONS ...]\n"

/-- What the options mean. -/
def options : String :=
  "options:\n" ++
  "  -h, --help            show this help message and exit\n" ++
  "  -a SUBJECT, --attempt SUBJECT\n" ++
  "                        Only (re-)download the responses.pdf of this one\n" ++
  "                        attempt directory\n" ++
  "  -r SIZE, --redownload-smaller-than SIZE\n" ++
  "                        Re-download any existing responses.pdf smaller than\n" ++
  "                        SIZE (e.g. 5KB), clearing its whole directory first\n" ++
  "  --skip-pdfs           Do not render responses to PDF; attachments are still\n" ++
  "                        downloaded\n" ++
  "  --version             show program's version number and exit\n"

/-- The help text. -/
def help : String :=
  usage ++ "\n" ++
  "Download the files listed in a quiz answer sheets instruction script into\n" ++
  "output/<zip-name>/ and zip them as output/<zip-name>.zip.\n\n" ++
  "positional arguments:\n" ++
  "  INSTRUCTIONS          Path to the instruction script to process\n\n" ++
  options ++ "\n" ++
  "Running the same script again skips files that already exist, so an\n" ++
  "interrupted download can be resumed.\n"

/-- The text after a misuse. -/
def complaint (message : String) : String := usage ++ program ++ ": error: " ++ message ++ "\n"

end Dossier.CommandLine.Manual
