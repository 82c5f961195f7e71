import TemplateLexer.Main
import TemplateLexer.Proofs.Faultless
import TemplateLexer.Proofs.TextRuns
import TemplateLexer.Proofs.Tiling
import TemplateLexer.Proofs.Context
import TemplateLexer.Proofs.Entry
import TemplateLexer.Proofs.Spelling
import TemplateLexer.Proofs.Reports
import TemplateLexer.Proofs.Trivia
import TemplateLexer.Proofs.Composition
import TemplateLexer.Proofs.Respelling
import TemplateLexer.Proofs.Rendezvous
import TemplateLexer.Proofs.Extends
import TemplateLexer.Proofs.Literals
import TemplateLexer.Proofs.Positions
import TemplateLexer.Proofs.Pointing
import TemplateLexer.Proofs.Outcomes
import TemplateLexer.Proofs.LineListing
import TemplateLexer.Proofs.JsonListing
import TemplateLexer.Proofs.OptionsFile
import TemplateLexer.Proofs.Sessions
