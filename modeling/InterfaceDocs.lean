import InterfaceDocs.Main
import InterfaceDocs.Session
import InterfaceDocs.Store.Memory
import InterfaceDocs.Proofs.Catalogue.Merge
import InterfaceDocs.Proofs.Session.History
import InterfaceDocs.Proofs.Store.Discovery
import InterfaceDocs.Proofs.Metadata.Spelling
import InterfaceDocs.Proofs.Metadata.Extent
import InterfaceDocs.Proofs.Docs.Collect
import InterfaceDocs.Proofs.Interface.Keys
import InterfaceDocs.Proofs.Metadata.Preference
import InterfaceDocs.Proofs.Report.Anchor
import InterfaceDocs.Proofs.Docs.Origin
import InterfaceDocs.Proofs.Report.Links
import InterfaceDocs.Proofs.Report.ReadBack
import InterfaceDocs.Proofs.Metadata.Canonical
import InterfaceDocs.Proofs.Catalogue.Plus
import InterfaceDocs.Proofs.Store.Agreement
import InterfaceDocs.Proofs.Docs.Exact
import InterfaceDocs.Proofs.Metadata.FirstFlaw
import InterfaceDocs.Proofs.Store.Readable
import InterfaceDocs.Proofs.Report.Sections
import InterfaceDocs.Proofs.Catalogue.Balance
import InterfaceDocs.Proofs.Catalogue.Absence
import InterfaceDocs.Proofs.Store.Confined
import InterfaceDocs.Proofs.Command.Arguments
import InterfaceDocs.Proofs.Command.Outcome
import InterfaceDocs.Proofs.Report.Numbering
import InterfaceDocs.Proofs.Catalogue.Log
import InterfaceDocs.Proofs.Report.Methods
import InterfaceDocs.Proofs.Metadata.Repeat
