import ChangeSieve.CommandLine.LogDirective
import ChangeSieve.Log
import ChangeSieve.Text.Blank

/-! Log filters: directives between commas, of which the most specific one decides about an event. -/
namespace ChangeSieve.LogFilter

open LogDirective (Fault)

/-- The directives of a text; empty ones are passed over. -/
def parts (text : String) : List (List Char) := (Text.split ',' text.toList).filter (· ≠ [])

def ofText (text : String) : Except Fault (List LogDirective) := (parts text).mapM LogDirective.ofText

/-- What is left of a filter whose wrong directives are passed over, with a notice about each. -/
structure Lenient where
  directives : List LogDirective
  notices : List String
  isIntact : Bool
  deriving DecidableEq, Repr

def notice (part : List Char) (fault : Fault) : String := s!"ignoring `{String.ofList part}`: {fault.message}"

/-- Reads directives one after the other, up to one that is cut inside a character. -/
def Lenient.ofParts : List (List Char) → Lenient
  | [] => ⟨[], [], true⟩
  | part :: rest =>
    match LogDirective.ofText part with
    | .ok d =>
      let after := ofParts rest
      { after with directives := d :: after.directives }
    | .error .brokenCharacter => ⟨[], [], false⟩
    | .error fault =>
      let after := ofParts rest
      { after with notices := notice part fault :: after.notices }

def Lenient.ofText (text : String) : Lenient := ofParts (parts text)

/-- The most specific of the directives that concern an event; of equals the last one. -/
def decisive? (directives : List LogDirective) (e : Log.Event) : Option LogDirective :=
  let concerned := directives.filter fun d => d.concerns e.target ("message" :: e.fields.map Prod.fst)
  concerned.foldl (fun best d => if best.all d.isAtLeastAsSpecific then some d else best) none

def verbosity : Log.Level → Verbosity
  | .warn => 2
  | .info => 3
  | .debug => 4

def enables (directives : List LogDirective) (e : Log.Event) : Bool :=
  (decisive? directives e).any fun d => verbosity e.level ≤ d.level

end ChangeSieve.LogFilter
