import ChangeSieve.Main
import ChangeSieve.Pattern.Same
import ChangeSieve.Regex.Support
import ChangeSieve.Service.Encode
import ChangeSieve.Proofs.Outcome
import ChangeSieve.Proofs.TextParts
import ChangeSieve.Proofs.Positions
import ChangeSieve.Proofs.Induction
import ChangeSieve.Proofs.Reading
import ChangeSieve.Proofs.Base64
import ChangeSieve.Proofs.FloatText
import ChangeSieve.Proofs.Grammar
import ChangeSieve.Proofs.Acceptance
import ChangeSieve.Proofs.Respelling
import ChangeSieve.Proofs.ItemImage
import ChangeSieve.Proofs.Rounding
import ChangeSieve.Proofs.NumberText
import ChangeSieve.Proofs.StringText
import ChangeSieve.Proofs.JsonText
import ChangeSieve.Proofs.Fields
import ChangeSieve.Proofs.WrittenText
import ChangeSieve.Proofs.Container
import ChangeSieve.Proofs.Framing
import ChangeSieve.Proofs.ReadBack
import ChangeSieve.Proofs.NumberValue
import ChangeSieve.Proofs.TypedScalar
import ChangeSieve.Proofs.OwnFilter
import ChangeSieve.Proofs.Batches
import ChangeSieve.Proofs.Absence
import ChangeSieve.Proofs.RuleLists
import ChangeSieve.Proofs.Exclusion
import ChangeSieve.Proofs.ContainerFault
import ChangeSieve.Proofs.NumberOrder
import ChangeSieve.Proofs.Shape
import ChangeSieve.Proofs.StreamSources
import ChangeSieve.Proofs.MapOrder
import ChangeSieve.Proofs.Runs
import ChangeSieve.Proofs.TableNames
import ChangeSieve.Proofs.NumberSpellings
import ChangeSieve.Proofs.PatternFault
import ChangeSieve.Proofs.WrittenService
import ChangeSieve.Proofs.TableMapping
import ChangeSieve.Proofs.Work
