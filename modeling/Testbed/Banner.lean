import Testbed.Bench
import Testbed.Text.Width

/-!
# Banners and blocks of output

A banner marks a section of the user's output with a line that starts with three dashes. It is
rendered as a block of text: each tab becomes four spaces, a carriage return before a line
feed is dropped, and when the text has several lines each line is padded with spaces to the
width of the widest, so the block is a rectangle. A block of output is written as it is, with a
line feed added when it does not end with one; an empty block writes nothing.
-/

namespace Testbed

/-- The text of a block as a rectangle of lines. -/
def renderBlock (text : String) : String :=
  let expanded := String.intercalate "    " (text.splitOn "\t")
  let joined := String.intercalate "\n" (expanded.splitOn "\r\n")
  let lines := joined.splitOn "\n"
  match lines with
  | [single] => single
  | _ =>
    let widest := lines.foldl (fun m line => max m (Text.width line)) 0
    String.intercalate "\n" (lines.map fun line =>
      line ++ String.ofList (List.replicate (widest - Text.width line) ' '))

def bannerLine (text : String) : String := renderBlock ("--- " ++ text) ++ "\n"

namespace Bench

def banner (text : String) : BenchM Unit := say (bannerLine text)

def block (text : String) : BenchM Unit :=
  if text.isEmpty then pure ()
  else if text.endsWith "\n" then say text
  else say (text ++ "\n")

end Bench

end Testbed
