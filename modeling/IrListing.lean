import IrListing.Files.Tree
import IrListing.Main
import IrListing.Proofs.Cli.Listed
import IrListing.Proofs.Filter.Apart
import IrListing.Proofs.Filter.Registry
import IrListing.Proofs.Listing.Comment
import IrListing.Proofs.Listing.DebugCall
import IrListing.Proofs.Listing.Evidence
import IrListing.Proofs.Listing.Order
import IrListing.Proofs.Listing.Pieces
import IrListing.Proofs.Listing.Position
import IrListing.Proofs.Listing.Readable
import IrListing.Proofs.Listing.Recover
import IrListing.Proofs.Listing.Reread
import IrListing.Proofs.Metadata.Written
import IrListing.Proofs.Settings.Overrule
import IrListing.Proofs.Source.History
import IrListing.Proofs.Source.Locality
import IrListing.Proofs.Symbol.Pairing
import IrListing.Proofs.Symbol.Row
