import BookIndex.Main
import BookIndex.Proofs.CommandLine.Failures
import BookIndex.Proofs.CommandLine.PrintedIndexes
import BookIndex.Proofs.CommandLine.Report
import BookIndex.Proofs.DocBook.Calls
import BookIndex.Proofs.DocBook.Comments
import BookIndex.Proofs.DocBook.Elements
import BookIndex.Proofs.DocBook.Frame
import BookIndex.Proofs.DocBook.Identifiers
import BookIndex.Proofs.DocBook.Marks
import BookIndex.Proofs.DocBook.Parsing
import BookIndex.Proofs.DocBook.Reports
import BookIndex.Proofs.DocBook.Session
import BookIndex.Proofs.Document.LoadedPart
import BookIndex.Proofs.Document.Saving
import BookIndex.Proofs.Encoding.Macros
import BookIndex.Proofs.Files.Writing
import BookIndex.Proofs.Latex.Braces
import BookIndex.Proofs.Latex.KeyReports
import BookIndex.Proofs.Latex.Keys
import BookIndex.Proofs.Latex.LabelReading
import BookIndex.Proofs.Latex.OwnKeys
import BookIndex.Proofs.Latex.Pairing
import BookIndex.Proofs.Latex.PlainLevels
import BookIndex.Proofs.Latex.Reparse
import BookIndex.Proofs.Markup.Classification
import BookIndex.Proofs.Markup.Commands
import BookIndex.Proofs.Markup.CrossReferences
import BookIndex.Proofs.Markup.Joined
import BookIndex.Proofs.Markup.Positions
import BookIndex.Proofs.Tex.Comments
import BookIndex.Proofs.Tex.Depth
import BookIndex.Proofs.Tex.LiveText
import BookIndex.Proofs.Tex.Parts
import BookIndex.Proofs.Tex.Passed
import BookIndex.Proofs.Tex.Recognized
import BookIndex.Proofs.Tex.Source
import BookIndex.Proofs.Tex.Stretches
import BookIndex.Proofs.Xhtml.BackLinks
import BookIndex.Proofs.Xhtml.Labels
import BookIndex.Proofs.Xhtml.Order
import BookIndex.Proofs.Xhtml.Reordering
import BookIndex.Proofs.Xhtml.Sides
import BookIndex.Proofs.Xhtml.Tree
import BookIndex.Proofs.Xhtml.TreeText
import BookIndex.Proofs.Xml.Id
import BookIndex.Proofs.Xml.NormalForm
import BookIndex.Proofs.Xml.PlainReading
