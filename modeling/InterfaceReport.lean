import InterfaceReport.Main
import InterfaceReport.Proofs.Report.Listing
import InterfaceReport.Proofs.Store.Answers
import InterfaceReport.Proofs.Store.Tables
import InterfaceReport.Proofs.Catalog.Membership
import InterfaceReport.Proofs.Catalog.Order
import InterfaceReport.Proofs.Report.Order
import InterfaceReport.Proofs.Store.Locality
import InterfaceReport.Proofs.Cell.Locality
import InterfaceReport.Proofs.Report.Locality
import InterfaceReport.Proofs.Store.History
import InterfaceReport.Proofs.Cell.LinkDown
import InterfaceReport.Proofs.Report.LinkDown
import InterfaceReport.Proofs.Report.Render
import InterfaceReport.Proofs.Cell.Displayed
import InterfaceReport.Proofs.NaturalOrder.Number
import InterfaceReport.Proofs.Text.Glob.Language
import InterfaceReport.Proofs.Text.Glob.Scan
import InterfaceReport.Proofs.Interface.Range
import InterfaceReport.Proofs.Interface.Filter
import InterfaceReport.Proofs.Interface.Selection
import InterfaceReport.Proofs.Number.Binary64
import InterfaceReport.Proofs.Speed
import InterfaceReport.Proofs.Catalog.SwitchMode
import InterfaceReport.Proofs.Cell.Speed
import InterfaceReport.Proofs.Report.LagSpeed
import InterfaceReport.Proofs.Cell.Inheritance
import InterfaceReport.Proofs.Speed.List
import InterfaceReport.Proofs.Report.Table
import InterfaceReport.Proofs.Settings
import InterfaceReport.Proofs.Watermark
import InterfaceReport.Proofs.CommandLine.Clearing
import InterfaceReport.Proofs.CommandLine.Options
import InterfaceReport.Proofs.Cell.Asked
