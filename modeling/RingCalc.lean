import RingCalc.Expr.Canonical
import RingCalc.Expr.Meaning
import RingCalc.Main
import RingCalc.Proofs.Composition
import RingCalc.Proofs.ExactValue
import RingCalc.Proofs.Naturality
import RingCalc.Proofs.Parser.Blame
import RingCalc.Proofs.Rendering
import RingCalc.Proofs.CommandLine.Pointing
import RingCalc.Proofs.Parser.Relocation
import RingCalc.Proofs.Numeral
import RingCalc.Proofs.Ring.Exactness
import RingCalc.Proofs.CommandLine.Listing
import RingCalc.Proofs.Parser.Safety
import RingCalc.Expr.StreamBank
import RingCalc.Session
import RingCalc.Proofs.Parser.Streams
import RingCalc.Proofs.Settings.Layers
import RingCalc.Proofs.Toml.Drafts
import RingCalc.Proofs.Toml.Reading
import RingCalc.Proofs.CommandLine.Configuration
import RingCalc.Proofs.CommandLine.RingOption
import RingCalc.Proofs.Registrations
import RingCalc.Proofs.Parser.Bookkeeping
import RingCalc.Proofs.Toml.Remainders
