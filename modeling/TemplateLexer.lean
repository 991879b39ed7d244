import TemplateLexer.Folder
import TemplateLexer.Main
import TemplateLexer.Proofs.Reader
import TemplateLexer.Proofs.Step
import TemplateLexer.Proofs.Run
import TemplateLexer.Proofs.ErrorPlace
import TemplateLexer.Proofs.Partition
import TemplateLexer.Proofs.Safety
import TemplateLexer.Proofs.View
import TemplateLexer.Proofs.Record
import TemplateLexer.Proofs.Yield
import TemplateLexer.Proofs.Document
import TemplateLexer.Proofs.Extension
import TemplateLexer.Proofs.Sentence
import TemplateLexer.Proofs.Concatenation
import TemplateLexer.Proofs.Handling
import TemplateLexer.Proofs.Seeking
import TemplateLexer.Proofs.Reading
import TemplateLexer.Proofs.Malformed
import TemplateLexer.Proofs.Check
import TemplateLexer.Proofs.Decoding
import TemplateLexer.Proofs.Chunks
import TemplateLexer.Proofs.Arguments
import TemplateLexer.Proofs.Listing
import TemplateLexer.Proofs.Word
import TemplateLexer.Proofs.Quoted
import TemplateLexer.Proofs.Line
import TemplateLexer.Proofs.Report
import TemplateLexer.Proofs.Command
import TemplateLexer.Proofs.Transcript
import TemplateLexer.Proofs.Room
import TemplateLexer.Proofs.Spelling
import TemplateLexer.Proofs.Meaning
import TemplateLexer.Proofs.Finality
import TemplateLexer.Proofs.Printing
